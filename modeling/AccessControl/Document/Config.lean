import AccessControl.Config
import AccessControl.Document.Decoding
import AccessControl.Toml.Document

/-!
# Configuration in documents

A configuration is a record each of whose fields may be missing, in JSON or in TOML. In either the
output format is given by its name; in TOML also by the name as the only key of a table, with
nothing in it.
-/

set_option autoImplicit false

namespace AccessControl

namespace OutputFormat

/-- Decodes an output format. -/
def decode : Decoder OutputFormat := Decoder.name ofName?

/-- Encodes an output format. -/
def toJson (f : OutputFormat) : Json := .text f.name

/-- Whether a value is an array or a table with nothing in it. -/
def isEmptyNode : Toml.Node → Bool
  | .array items => items.isEmpty
  | .inline members | .table _ members => members.isEmpty
  | .tables elements => elements.isEmpty
  | _ => false

/-- The format that a value in a TOML document gives. -/
def ofToml? : Toml.Node → Option OutputFormat
  | .text s => ofName? s
  | .inline [(name, v)] | .table _ [(name, v)] => if isEmptyNode v then ofName? name else none
  | _ => none

end OutputFormat

namespace Config

/-! ## JSON -/

/-- The fields of a configuration that have been read. -/
structure Draft where
  policyFile : Option (Option String) := none
  defaultLayer : Option Bool := none
  logLevel : Option String := none
  output : Option OutputFormat := none

/-- The configuration of a draft. -/
def Draft.config (d : Draft) : Config :=
  let standard : Config := {}
  { policyFile := d.policyFile.getD standard.policyFile
    defaultLayer := d.defaultLayer.getD standard.defaultLayer
    logLevel := d.logLevel.getD standard.logLevel
    output := d.output.getD standard.output }

/-- How a configuration is put together. -/
def fields : Decoder.Fields Draft Config where
  names := ["policy_file", "default_layer", "log_level", "output"]
  start := {}
  put d name j := do
    match name with
    | "policy_file" =>
      return { d with policyFile := ← Decoder.once d.policyFile (Decoder.option Decoder.text) j }
    | "default_layer" =>
      return { d with defaultLayer := ← Decoder.once d.defaultLayer Decoder.bool j }
    | "log_level" => return { d with logLevel := ← Decoder.once d.logLevel Decoder.text j }
    | "output" => return { d with output := ← Decoder.once d.output OutputFormat.decode j }
    | _ => return d
  finish d := .ok d.config

/-- Decodes a configuration. -/
def decode : Decoder Config := Decoder.record fields

/-- Encodes a configuration. -/
def toJson (c : Config) : Json :=
  .record
    [("policy_file", .ofOption Json.text c.policyFile), ("default_layer", .bool c.defaultLayer),
      ("log_level", .text c.logLevel), ("output", c.output.toJson)]

/-! ## TOML -/

/-- Takes one member of a TOML document into a draft. One that is not known is passed over. -/
def Draft.take? (d : Draft) (key : String) (v : Toml.Node) : Option Draft :=
  match key, v with
  | "policy_file", .text s => some { d with policyFile := some (some s) }
  | "default_layer", .bool b => some { d with defaultLayer := some b }
  | "log_level", .text s => some { d with logLevel := some s }
  | "output", v => (OutputFormat.ofToml? v).map fun f => { d with output := some f }
  | "policy_file", _ | "default_layer", _ | "log_level", _ => none
  | _, _ => some d

/-- The configuration that a TOML document gives. -/
def ofToml? (document : String) : Option Config := do
  let draft ← (← Toml.read document).foldlM (fun d (key, v) => d.take? key v) ({} : Draft)
  return draft.config

end Config

end AccessControl
