/-
  Transcripts/Project/Record.lean
  ===============================
  **Sessions, tags and legal references as stored records.**

  A record is a JSON object.  Reading is lenient about values: whatever stands
  where a text is expected is taken as the text that shows it, and what cannot
  be a number is zero.  It is strict about three things only: the id must be
  there, a list must be something with items, and a legal reference must have a
  known category and status.
-/
import Transcripts.Collection.Basic
import Transcripts.Json.Value
import Transcripts.Legal.Reference
import Transcripts.Numeral.Integer
import Transcripts.Session.Basic
import Transcripts.Tag.Store
import Transcripts.Text.LetterCase
import Transcripts.Text.RawText

namespace Transcripts

open Transcripts.Numeral
open Transcripts.Text

/-- Why an object is not read as a record. -/
inductive RecordFault where
  | missingField (name : String)
  /-- A value that has no items, by the name of its kind. -/
  | noItems (kind : String)
  | infiniteNumber
  | unknownCategory (text : String)
  | unknownStatus (text : String)
deriving DecidableEq, Repr

def RecordFault.message : RecordFault → String
  | .missingField name => quote name
  | .noItems kind => quote kind ++ " object is not iterable"
  | .infiniteNumber => "cannot convert float infinity to integer"
  | .unknownCategory text => quote text ++ " is not a valid LegalCategory"
  | .unknownStatus text => quote text ++ " is not a valid LegalStatus"

abbrev Fields (τ : Type := String) : Type := Keyed τ (Json τ)

/-! ### Reading -/

def SessionKind.ofJson {τ : Type} [Textual τ] : Json τ → SessionKind
  | .string s => .ofText (Textual.shown s)
  | _ => .audio

section Reading

variable {τ : Type} [DecidableEq τ] [Textual τ]

namespace Fields

/-- The value of a field; null if it is missing. -/
def value (fields : Fields τ) (name : String) : Json τ :=
  (Keyed.get? fields (Textual.literal name)).getD .null

/-- A field that must be there, as text. -/
def required (fields : Fields τ) (name : String) : Except RecordFault τ :=
  match Keyed.get? fields (Textual.literal name) with
  | some v => .ok v.text
  | none => .error (.missingField name)

/-- A field as text; empty if nothing is given. -/
def textOf (fields : Fields τ) (name : String) : τ :=
  let v := fields.value name
  if v.isGiven then v.text else Textual.literal ""

/-- A field as text, if it is there and the text is not empty. -/
def optionalText (fields : Fields τ) (name : String) : Option τ :=
  match fields.value name with
  | .null => none
  | v => if Textual.isEmpty v.text then none else some v.text

/-- A field as a whole number; zero for what is not a number.  Fractions are cut
    off; an infinite number is refused. -/
def wholeNumber (fields : Fields τ) (name : String) : Except RecordFault Int :=
  match fields.value name with
  | .bool b => .ok (if b then 1 else 0)
  | .int n => .ok n
  | .number (.finite negative m e) => .ok (Binary64.truncate negative m e)
  | .number (.infinite _) => .error .infiniteNumber
  | .string s => .ok ((integer? (Textual.shown s).toList).getD 0)
  | _ => .ok 0

/-- A field as a list of texts: the items of a list, the names of an object, the
    code points of a text. -/
def textItems (fields : Fields τ) (name : String) : Except RecordFault (List τ) :=
  let v := fields.value name
  if !v.isGiven then .ok []
  else match v with
    | .array items => .ok (items.map Json.text)
    | .object entries => .ok (entries.map Prod.fst)
    | .string s => .ok ((Textual.points s).map fun p => Textual.ofPoints [p])
    | .bool _ => .error (.noItems "bool")
    | .int _ => .error (.noItems "int")
    | .number _ => .error (.noItems "float")
    | .null => .ok []

/-- A field in small letters, with a text for the case that it is missing. -/
def loweredOr (fields : Fields τ) (name missing : String) : String :=
  lowered (((Keyed.get? fields (Textual.literal name)).map fun v => Textual.shown v.text).getD missing)

end Fields

def Session.ofFields [LT τ] [DecidableLT τ] (fields : Fields τ) :
    Except RecordFault (Session τ) := do
  let id ← fields.required "sessionId"
  let startPage ← fields.wholeNumber "startPage"
  let endPage ← fields.wholeNumber "endPage"
  let refs ← fields.textItems "legalReferenceIds"
  return {
    id, startPage, endPage
    target := fields.textOf "target"
    date := fields.textOf "date"
    kind := .ofJson (fields.value "type")
    content := fields.textOf "content"
    sourceFile := fields.textOf "sourceFileName"
    targetName := fields.optionalText "targetName"
    sourceNumber := fields.optionalText "sourceNumber"
    sourceName := fields.optionalText "sourceName"
    destinationNumber := fields.optionalText "destinationNumber"
    destinationName := fields.optionalText "destinationName"
    startTime := fields.optionalText "startTime"
    endTime := fields.optionalText "endTime"
    duration := fields.optionalText "duration"
    summary := fields.optionalText "summary"
    legalReferenceIds := TextSet.ofList refs }

def Tag.ofFields (fields : Fields τ) : Except RecordFault (Tag τ) := do
  let id ← fields.required "id"
  let timestamp ← fields.wholeNumber "timestamp"
  let sessionIds ← fields.textItems "sessionIds"
  return {
    id, timestamp, sessionIds
    name := fields.textOf "name"
    description := fields.textOf "filterDescription" }

def LegalReference.ofFields (fields : Fields τ) : Except RecordFault (LegalReference τ) := do
  let id ← fields.required "id"
  let categoryText := fields.loweredOr "category" "tag"
  let category ← match LegalCategory.ofText? categoryText with
    | some category => pure category
    | none => throw (.unknownCategory categoryText)
  let statusText := fields.loweredOr "status" "active"
  let status ← match LegalStatus.ofText? statusText with
    | some status => pure status
    | none => throw (.unknownStatus statusText)
  return {
    id, category, status
    label := fields.textOf "label"
    description := fields.optionalText "description" }

end Reading

/-! ### Writing -/

def textArray {τ : Type} (texts : List τ) : Json τ := .array (texts.map Json.string)

section Writing

variable {τ : Type} [Textual τ]

abbrev field (name : String) (v : Json τ) : τ × Json τ := (Textual.literal name, v)

/-- A field that is written only if it has a value. -/
def optionalField (name : String) (text : Option τ) : Fields τ :=
  match text with
  | some s => [field name (.string s)]
  | none => []

def Session.toFields (s : Session τ) : Fields τ :=
  [field "sessionId" (.string s.id), field "target" (.string s.target),
   field "date" (.string s.date), field "type" (.string (Textual.literal s.kind.text)),
   field "content" (.string s.content), field "sourceFileName" (.string s.sourceFile),
   field "startPage" (.int s.startPage), field "endPage" (.int s.endPage)] ++
  optionalField "targetName" s.targetName ++
  optionalField "sourceNumber" s.sourceNumber ++
  optionalField "sourceName" s.sourceName ++
  optionalField "destinationNumber" s.destinationNumber ++
  optionalField "destinationName" s.destinationName ++
  optionalField "startTime" s.startTime ++
  optionalField "endTime" s.endTime ++
  optionalField "duration" s.duration ++
  optionalField "summary" s.summary ++
  (if s.legalReferenceIds.isEmpty then []
   else [field "legalReferenceIds" (textArray s.legalReferenceIds)])

def Tag.toFields (t : Tag τ) : Fields τ :=
  [field "id" (.string t.id), field "name" (.string t.name), field "timestamp" (.int t.timestamp),
   field "sessionIds" (textArray t.sessionIds), field "filterDescription" (.string t.description)]

def LegalReference.toFields (r : LegalReference τ) : Fields τ :=
  [field "id" (.string r.id), field "category" (.string (Textual.literal r.category.text)),
   field "label" (.string r.label), field "status" (.string (Textual.literal r.status.text))] ++
  optionalField "description" r.description

end Writing

end Transcripts
