import PandocHtml.Fault

/-!
# Faults as records

A fault that is put together from parts: its kind, its wording, and the particulars that faults of
its kind carry.  A kind has parts that must be given and parts that may be; wrong options and
failed deliveries word themselves unless they are given a wording.
-/

namespace PandocHtml

structure FaultRecord where
  kind : FaultKind
  text : String
  fields : List (String × Json)

namespace FaultRecord

def required : FaultKind → List String
  | .wrongOptions => ["renderer_name", "expected_type", "received_type"]
  | .delivery => ["file_path"]
  | _ => ["message"]

def optional : FaultKind → List String
  | .validation => ["parameter_name", "parameter_value", "original_error"]
  | .wrongOptions | .delivery => ["message", "original_error"]
  | .parsing => ["parsing_stage", "original_error"]
  | .rendering => ["rendering_stage", "original_error"]
  | .general => ["original_error"]
  | _ => []

/-- The parts fit a kind: nothing required is missing, and nothing else is given. -/
def fits (kind : FaultKind) (parts : List (String × Json)) : Bool :=
  (required kind).all (fun name => (Json.lookup parts name).isSome)
    && parts.all fun part => (required kind).contains part.1 || (optional kind).contains part.1

/-- A part, `null` when it is not given. -/
def part (parts : List (String × Json)) (name : String) : Json :=
  (Json.lookup parts name).getD .null

def wording (parts : List (String × Json)) (own : String) : String :=
  match part parts "message" with
  | .null => own
  | v => v.plain

def ofFitting (kind : FaultKind) (parts : List (String × Json)) : FaultRecord :=
  let get := part parts
  let message := (get "message").plain
  match kind with
  | .validation => ⟨kind, message, [("parameter_name", get "parameter_name")]⟩
  | .wrongOptions =>
    ⟨kind,
      wording parts (Fault.wrongOptionsWording (get "renderer_name").plain
        (get "expected_type").plain (get "received_type").plain),
      [("parameter_name", .str "options"), ("renderer_name", get "renderer_name")]⟩
  | .parsing => ⟨kind, message, [("parsing_stage", get "parsing_stage")]⟩
  | .rendering => ⟨kind, message, [("rendering_stage", get "rendering_stage")]⟩
  | .delivery =>
    ⟨kind, wording parts (Fault.undeliveredWording (get "file_path").plain),
      [("rendering_stage", .str "file_write"), ("file_path", get "file_path")]⟩
  | _ => ⟨kind, message, []⟩

def ofParts (kind : FaultKind) (parts : List (String × Json)) : Except Fault FaultRecord :=
  if fits kind parts then .ok (ofFitting kind parts) else .error (.misuse .unknownOption)

/-- The record of a key that was not found, whose wording shows the key in quotes. -/
def ofMissingKey (key : Json) : FaultRecord := ⟨.misuse, key.literal, []⟩

end FaultRecord

end PandocHtml
