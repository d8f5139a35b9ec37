import PandocHtml.Json.Reader
import PandocHtml.Pandoc.Metadata
import PandocHtml.Text.Encoding
import PandocHtml.Traced

/-!
# Reading documents

A document comes as a JSON value, as JSON text or as the bytes of one.  Its version of the format
is compared with the one this library knows; another version is reported and read all the same.
A host is taken to have room for the nesting of a document.
-/

namespace PandocHtml

namespace Pandoc

def knownVersion : List Json := [.int 1, .int 23]

variable [Host]

/-- Report a version that differs from the known one; an absent version is not compared. -/
def checkVersion (version : Json) : Traced Unit :=
  match version with
  | .null => pure ()
  | .arr _ | .str _ =>
    let parts := (items? version).getD []
    if Json.sameItems (parts.take 2) knownVersion then pure ()
    else if Json.areWritable Host.digits parts then
      Traced.note (.otherVersion (".".intercalate (parts.map Json.plain)))
    else Traced.fail (.overlong Host.digits none)
  | _ => Traced.fail (.misuse .sliced)

def topLevelBlocks (v : Json) : Except Fault (List Block) := do
  (← itemsOrMisuse v).mapM Block.ofJson

end Pandoc

namespace Document

variable [Host]

/-- A document from its JSON value: the version is checked, then the metadata is read, then the
blocks. -/
def ofJsonValue (v : Json) : Traced Document :=
  match v with
  | .obj fields =>
    match Json.lookup fields "blocks" with
    | none => Traced.fail .noBlocks
    | some encoded => do
      Pandoc.checkVersion ((Json.lookup fields "pandoc-api-version").getD .null)
      let metadata ← metadataFieldsOfJson ((Json.lookup fields "meta").getD .null)
      let blocks ← Pandoc.topLevelBlocks encoded
      Traced.note (.decoded blocks.length)
      return ⟨metadata, blocks⟩
  | _ => Traced.fail .noBlocks

/-- A document from what was read of a text with these code points. -/
def ofRead (points : List Text.Point) (r : Except Json.ReadFault Json) : Traced Document :=
  match r with
  | .ok v => ofJsonValue v
  | .error (.broken cause offset) =>
    Traced.fail (.badJson (some (cause.message points offset)))
  | .error (.overlong count) => Traced.fail (.overlong Host.digits (some count))

def ofText (text : List Char) : Traced Document :=
  ofRead (text.map Text.Point.char) (Json.read text)

/-- A document from the bytes of JSON text; a byte order mark is no part of the text. -/
def ofBytes (bytes : List UInt8) : Traced Document :=
  match Text.decodeBytes bytes with
  | some points => ofRead points (Json.readPoints points)
  | none => Traced.fail (.badJson none)

/-- A document from a JSON value, which may itself be the text of one. -/
def ofJson (v : Json) : Traced Document :=
  match v with
  | .str s => ofText s.toList
  | v => ofJsonValue v

end Document

end PandocHtml
