import TreeTemplate.Proofs.Forest.Names

/-!
# Trees that are read from markup

What every tree has that is read from markup, whether something is wrong with the markup or not: a
name that stands twice in a tag is refused, and nothing that is read is hidden.

Main statements:

* `forall_read` — what holds of texts, and of elements where it holds below them;
* `distinct_read`, `shown_read` — no element has two attributes of one name, and none is hidden.
-/

namespace TreeTemplate.Markup

variable {attrs : List (String × String)}

/-- The attribute that is read has a name that was not read before. -/
lemma RawAttribute.lookup_of_read {length position : Nat} {seen : List (List Char × Nat)}
    {first : Char} {s : List Char} {attr : RawAttribute}
    (h : RawAttribute.read length position seen first s = .ok attr) :
    seen.lookup attr.name = none := by
  simp only [RawAttribute.read] at h
  split at h
  · cases h
  · rename_i hlookup
    split at h
    · split at h
      · cases h
      · cases h
        exact hlookup
    · cases h
      exact hlookup

/-- The attributes of a tag have names of their own, which were not read before. -/
lemma nodup_readAttributes {length position skip : Nat} {seen : List (List Char × Nat)}
    {s : List Char} (h : readAttributes length position skip seen s = .ok attrs) :
    (attrs.map Prod.fst).Nodup ∧ ∀ attr ∈ attrs, seen.lookup attr.1.toList = none := by
  induction s generalizing position skip seen attrs with
  | nil => cases h; exact ⟨List.nodup_nil, fun _ hm => nomatch hm⟩
  | cons c s ih =>
    cases skip with
    | succ skip => exact ih h
    | zero =>
      simp only [readAttributes] at h
      split at h
      · exact ih h
      · split at h
        · cases h
        · rename_i attr hattr
          split at h
          · cases h
          · rename_i value hvalue
            cases hlater : readAttributes length (position + c.utf8Size) (attr.extent.length - 1)
                ((attr.name, position) :: seen) s with
            | error fault => rw [hlater] at h; cases h
            | ok later =>
              rw [hlater] at h
              cases h
              obtain ⟨hnodup, hnew⟩ := ih hlater
              have hne (other : String × String) (ho : other ∈ later) :
                  other.1.toList ≠ attr.name ∧ seen.lookup other.1.toList = none := by
                have := hnew other ho
                rw [List.lookup_cons] at this
                split at this
                · cases this
                · rename_i hbeq
                  exact ⟨by simpa using hbeq, this⟩
              refine ⟨List.nodup_cons.2 ⟨fun hmem => ?_, hnodup⟩, fun other ho => ?_⟩
              · obtain ⟨other, ho, e⟩ := List.mem_map.1 hmem
                exact (hne other ho).1 (by rw [e, String.toList_ofList])
              · rcases List.mem_cons.1 ho with rfl | ho
                · rw [String.toList_ofList]
                  exact RawAttribute.lookup_of_read hattr
                · exact (hne other ho).2

/-- Whether an event names each attribute once. -/
def Event.Distinct : Event → Prop
  | .start _ attrs _ => (attrs.map Prod.fst).Nodup
  | _ => True

/-- What happens at a lexeme names each attribute once. -/
lemma Lexeme.distinct_event {innermost? : Option String} {position : Nat} {lexeme : Lexeme}
    {event : Event} (h : lexeme.event innermost? position = .ok event) : event.Distinct := by
  cases event with
  | start tag attrs closed =>
    cases lexeme with
    | text raw =>
      simp only [Lexeme.event] at h
      split at h
      · cases h
      · split at h <;> cases h
    | characterData content => cases h
    | aside => cases h
    | startTag body closed =>
      simp only [Lexeme.event, bind, Except.bind] at h
      split at h
      · cases h
      · rename_i found hattrs
        cases h
        exact (nodup_readAttributes hattrs).1
    | endTag name =>
      simp only [Lexeme.event] at h
      split at h
      · cases h
      · split at h <;> cases h
  | text | stop | pass => trivial

/-- What happens in the rest of markup names each attribute once. -/
lemma distinct_scan {position skip : Nat} {opened : List String} {s : List Char} {event : Event}
    (h : event ∈ (scan position skip opened s).1) : event.Distinct := by
  induction s generalizing position skip opened with
  | nil => cases h
  | cons c s ih =>
    cases skip with
    | succ skip => exact ih h
    | zero =>
      simp only [scan] at h
      split at h
      · cases h
      · split at h
        · cases h
        · rename_i found hfound
          rcases List.mem_cons.1 h with rfl | h
          · exact Lexeme.distinct_event hfound
          · exact ih h

/-- What happens in markup names each attribute once. -/
lemma distinct_events {markup : String} {event : Event} (h : event ∈ (events markup).1) :
    event.Distinct := by
  unfold events at h
  split at h <;> exact distinct_scan h

/-- A property that texts have, and that an element as it is read has where everything below it has
it. -/
structure Inherited (p : Bare → Prop) : Prop where
  text : ∀ content, p (.text () content)
  element : ∀ tag attrs children, (attrs.map Prod.fst).Nodup → (∀ t ∈ children, p t) →
    p (.element () tag attrs false children)

/-- All that was read has a property, and no open element has two attributes of one name. -/
structure Reading.All (p : Bare → Prop) (r : Reading) : Prop where
  siblings : ∀ t ∈ r.siblings, p t
  attrs : ∀ o ∈ r.opened, (o.attrs.map Prod.fst).Nodup
  before : ∀ o ∈ r.opened, ∀ t ∈ o.before, p t

namespace Reading

variable {p : Bare → Prop} {r r' : Reading}

/-- A tree with the property can be added. -/
lemma All.add (h : r.All p) {t : Bare} (ht : p t) : (r.add t).All p where
  siblings u hu := (List.mem_cons.1 hu).elim (fun e => e ▸ ht) (h.siblings u)
  attrs := h.attrs
  before := h.before

/-- An element whose attributes have different names can be opened. -/
lemma All.enter (h : r.All p) {tag : String} (hattrs : (attrs.map Prod.fst).Nodup) :
    (r.enter tag attrs).All p where
  siblings _ hu := nomatch hu
  attrs o ho := (List.mem_cons.1 ho).elim (fun e => e ▸ hattrs) (h.attrs o)
  before o ho := (List.mem_cons.1 ho).elim (fun e => e ▸ h.siblings) (h.before o)

variable (hp : Inherited p)
include hp

/-- The innermost open element is closed. -/
lemma All.leave {siblings : List Bare} {o : OpenElement} {around : List OpenElement}
    (h : All p ⟨siblings, o :: around⟩) : (leave ⟨siblings, o :: around⟩).All p where
  siblings t ht := by
    rcases List.mem_cons.1 ht with rfl | ht
    · exact hp.element _ _ _ (h.attrs o List.mem_cons_self)
        fun u hu => h.siblings u (List.mem_reverse.1 hu)
    · exact h.before o List.mem_cons_self t ht
  attrs q hq := h.attrs q (List.mem_cons_of_mem _ hq)
  before q hq := h.before q (List.mem_cons_of_mem _ hq)

/-- Closing all elements that are open. -/
lemma forall_close {siblings : List Bare} {opened : List OpenElement}
    (h : All p ⟨siblings, opened⟩) : ∀ t ∈ close siblings opened, p t := by
  induction opened generalizing siblings with
  | nil => exact fun t ht => h.siblings t (List.mem_reverse.1 ht)
  | cons o around ih => exact ih (h.leave hp)

/-- An event that names each attribute once keeps what is inherited. -/
lemma All.apply (h : r.All p) {event : Event} (hevent : event.Distinct) :
    (r.apply event).All p := by
  match event with
  | .text content => exact h.add (hp.text content)
  | .start tag attrs true => exact h.add (hp.element _ _ _ hevent fun _ hu => nomatch hu)
  | .start tag attrs false => exact h.enter hevent
  | .stop =>
    obtain ⟨siblings, opened⟩ := r
    cases opened with
    | nil => exact h
    | cons o around => exact h.leave hp
  | .pass => exact h

/-- Events one after another keep what is inherited. -/
lemma All.foldl (h : r.All p) {events : List Event} (hevents : ∀ event ∈ events, event.Distinct) :
    (events.foldl Reading.apply r).All p := by
  induction events generalizing r with
  | nil => exact h
  | cons event events ih =>
    obtain ⟨hevent, hlater⟩ := List.forall_mem_cons.1 hevents
    exact ih (h.apply hp hevent) hlater

end Reading

/-- What is inherited holds of everything that is read. -/
lemma forall_read {p : Bare → Prop} (hp : Inherited p) (markup : String) :
    ∀ t ∈ (read markup).trees, p t := by
  have hstart : Reading.All p {} := by constructor <;> simp
  exact Reading.forall_close hp (hstart.foldl hp fun event => distinct_events)

/-- What is read from markup has each name once. -/
lemma distinct_read (markup : String) : ∀ t ∈ (read markup).trees, t.Distinct :=
  forall_read ⟨fun content => Tree.distinct_text () content,
    fun _ _ _ hattrs hchildren => Tree.distinct_element.2 ⟨hattrs, hchildren⟩⟩ markup

/-- Nothing that is read from markup is hidden. -/
lemma shown_read (markup : String) :
    ∀ t ∈ (read markup).trees, ∀ u ∈ t.nodes, u.isHidden = false := by
  refine forall_read ⟨fun content u hu => ?_, fun tag attrs children _ hchildren u hu => ?_⟩ markup
  · obtain rfl := List.mem_singleton.1 hu
    rfl
  · rw [Tree.nodes, Tree.nodesOf_eq_flatMap] at hu
    rcases List.mem_cons.1 hu with rfl | hu
    · rfl
    · obtain ⟨t, ht, hu⟩ := List.mem_flatMap.1 hu
      exact hchildren t ht u hu

end TreeTemplate.Markup
