import AccessControl.Decision
import AccessControl.Document.Decoding

/-!
# Operations and decisions in documents

Operations and verdicts are written by name. A decision is a record all of whose fields have to be
given; its contexts and tags are lists, which are written in ascending order and may be read in any.
-/

set_option autoImplicit false

namespace AccessControl

namespace Operation

/-- Decodes an operation. -/
def decode : Decoder Operation := Decoder.name ofName?

/-- Encodes an operation. -/
def toJson (op : Operation) : Json := .text op.name

end Operation

namespace Outcome

/-- Decodes a verdict. -/
def decode : Decoder Outcome := Decoder.name ofName?

/-- Encodes a verdict. -/
def toJson (o : Outcome) : Json := .text o.name

end Outcome

namespace Decision

/-- The fields of a decision that have been read. -/
structure Draft where
  outcome : Option Outcome := none
  reason : Option String := none
  contexts : Option (List String) := none
  tags : Option (List String) := none

/-- How a decision is put together. -/
def fields : Decoder.Fields Draft Decision where
  names := ["outcome", "reason", "cache_contexts", "cache_tags"]
  start := {}
  put d name j := do
    match name with
    | "outcome" => return { d with outcome := ← Decoder.once d.outcome Outcome.decode j }
    | "reason" => return { d with reason := ← Decoder.once d.reason Decoder.text j }
    | "cache_contexts" =>
      return { d with contexts := ← Decoder.once d.contexts (Decoder.list Decoder.text) j }
    | "cache_tags" => return { d with tags := ← Decoder.once d.tags (Decoder.list Decoder.text) j }
    | _ => return d
  finish d := do
    return {
      outcome := ← Decoder.required d.outcome
      reason := ← Decoder.required d.reason
      contexts := Std.ExtTreeSet.ofList (← Decoder.required d.contexts)
      tags := Std.ExtTreeSet.ofList (← Decoder.required d.tags) }

/-- Decodes a decision. -/
def decode : Decoder Decision := Decoder.record fields

/-- The members that encode a decision. -/
def members (d : Decision) : List (String × Json) :=
  [("outcome", d.outcome.toJson), ("reason", .text d.reason),
    ("cache_contexts", .texts d.contexts.toList), ("cache_tags", .texts d.tags.toList)]

/-- Encodes a decision. -/
def toJson (d : Decision) : Json := .record d.members

end Decision

end AccessControl
