import TreeTemplate.Document.Arena

/-!
# Operations

The operations that change a document from outside, as an arena does them and as a forest does. An
arena puts nodes below a text where it is asked to; a forest has no room for them, so there such an
operation is undefined.

An operation leaves nothing where one of its nodes is not there.
-/

namespace TreeTemplate

/-- An operation that changes a document. -/
inductive Operation where
  | setAttr (n : NodeId) (name value : String)
  | removeAttr (n : NodeId) (name : String)
  | addClass (n : NodeId) (name : String)
  | removeClass (n : NodeId) (name : String)
  | append (parent child : NodeId)
  | removeChildren (n : NodeId)
  | detach (n : NodeId)
  | remove (n : NodeId)
  | clone (n : NodeId) (deep : Bool)
  | setText (n : NodeId) (content : String)
  | removeText (n : NodeId)
  | setMarkup (n : NodeId) (markup : String)
  | create (tag : String)
  | setHidden (n : NodeId) (hidden : Bool)

/-- The arena that an operation leaves. Markup that is not accepted leaves one as well. -/
def Arena.run? (a : Arena) : Operation → Option Arena
  | .setAttr n name value => a.change? n (·.setAttr name value)
  | .removeAttr n name => a.change? n (·.removeAttr name)
  | .addClass n name => a.change? n (·.addClass name)
  | .removeClass n name => a.change? n (·.removeClass name)
  | .append parent child => a.append? parent child
  | .removeChildren n => a.removeChildren? n
  | .detach n => a.detach? n
  | .remove n => a.remove? n
  | .clone n deep => (a.clone? n deep).map Prod.snd
  | .setText n content => a.setText? n content
  | .removeText n => a.removeText? n
  | .setMarkup n markup => (a.setMarkup? n markup).map Prod.fst
  | .create tag => some (a.create tag).2
  | .setHidden n hidden => a.change? n (·.setHidden hidden)

/-- The arena that operations one after another leave. -/
def Arena.runAll? (a : Arena) : List Operation → Option Arena
  | [] => some a
  | op :: ops => (a.run? op).bind (runAll? · ops)

namespace Operation

/-- The forest that an operation leaves. Markup that is not accepted leaves one as well. -/
def run? (d : Document) : Operation → Option Document
  | setAttr n name value => d.update? n (·.setAttr name value)
  | removeAttr n name => d.update? n (·.removeAttr name)
  | addClass n name => d.update? n (·.addClass name)
  | removeClass n name => d.update? n (·.removeClass name)
  | append parent child => d.append? parent child
  | removeChildren n => d.removeChildren? n
  | detach n => d.detach? n
  | remove n => d.remove? n
  | clone n deep => (d.clone? n deep).map Prod.snd
  | setText n content => d.setText? n content
  | removeText n => d.removeText? n
  | setMarkup n markup => (d.setMarkup? n markup).map Prod.fst
  | create tag => some (d.create tag).2
  | setHidden n hidden => d.update? n (·.setHidden hidden)

/-- The forest that operations one after another leave. -/
def runAll? (d : Document) : List Operation → Option Document
  | [] => some d
  | op :: ops => (op.run? d).bind (runAll? · ops)

end Operation

end TreeTemplate
