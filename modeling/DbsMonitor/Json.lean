import DbsMonitor.Utf8

/-!
# JSON values

A value as it is decoded: texts are bytes of UTF-8, numbers are kept as they are written, and fields
keep their order. What is written of a value is its names and texts between quotes, and other bytes
around them (`Written`).
-/

namespace DbsMonitor

open Utf8

namespace Json

def isNumberByte (byte : UInt8) : Bool :=
  (48 ≤ byte && byte ≤ 57) || byte = 43 || byte = 45 || byte = 46 || byte = 101 || byte = 69

structure Number where
  text : List UInt8
  isNumberByte_text : ∀ byte ∈ text, isNumberByte byte = true

end Json

inductive Json
  | null
  | bool (value : Bool)
  | number (number : Json.Number)
  | string (text : List UInt8)
  | array (items : List Json)
  | object (fields : List (List UInt8 × Json))

namespace Json

@[induction_eliminator]
theorem induct {P : Json → Prop} (null : P .null) (bool : ∀ value, P (.bool value))
    (number : ∀ number, P (.number number)) (string : ∀ text, P (.string text))
    (array : ∀ items : List Json, (∀ item ∈ items, P item) → P (.array items))
    (object : ∀ fields : List (List UInt8 × Json), (∀ field ∈ fields, P field.2) →
      P (.object fields)) (value : Json) : P value :=
  @Json.rec P (fun items => ∀ item ∈ items, P item) (fun fields => ∀ field ∈ fields, P field.2)
    (fun field => P field.2) null bool number string array object
    (fun _ h => absurd h List.not_mem_nil)
    (fun _ _ hitem hitems => List.forall_mem_cons.mpr ⟨hitem, hitems⟩)
    (fun _ h => absurd h List.not_mem_nil)
    (fun _ _ hfield hfields => List.forall_mem_cons.mpr ⟨hfield, hfields⟩)
    (fun _ _ hvalue => hvalue) value

inductive Field (name : List UInt8) (child : Json) : Json → Prop
  | here {fields : List (List UInt8 × Json)} (h : (name, child) ∈ fields) :
    Field name child (.object fields)
  | field {fields : List (List UInt8 × Json)} {field : List UInt8 × Json} (h : field ∈ fields)
    (hfield : Field name child field.2) : Field name child (.object fields)
  | item {items : List Json} {item : Json} (h : item ∈ items) (hitem : Field name child item) :
    Field name child (.array items)

mutual

/-- The names and texts of a value in their order, without the fields of the names that are
hidden. -/
def texts (hides : List UInt8 → Bool) : Json → List (List UInt8)
  | .string text => [text]
  | .array items => itemTexts hides items
  | .object fields => fieldTexts hides fields
  | _ => []

def itemTexts (hides : List UInt8 → Bool) : List Json → List (List UInt8)
  | [] => []
  | item :: items => texts hides item ++ itemTexts hides items

def fieldTexts (hides : List UInt8 → Bool) : List (List UInt8 × Json) → List (List UInt8)
  | [] => []
  | (name, child) :: fields =>
    (if hides name then [] else name :: texts hides child) ++ fieldTexts hides fields

end

def quote : UInt8 := 34

/-- What stands around the texts: punctuation, blanks, numbers, and `true`, `false` and `null`. -/
def plainBytes : List UInt8 := ascii "0123456789+-.eE\x7b\x7d[],: \ntrufalsn"

/-- The texts, escaped and between quotes, with other bytes around them. -/
inductive Written (escape : List UInt8 → List UInt8) : List (List UInt8) → List UInt8 → Prop
  | nil {gap : List UInt8} (hgap : ∀ byte ∈ gap, byte ∈ plainBytes) : Written escape [] gap
  | cons {gap text rest : List UInt8} {texts : List (List UInt8)}
    (hgap : ∀ byte ∈ gap, byte ∈ plainBytes) (hrest : Written escape texts rest) :
    Written escape (text :: texts) (gap ++ quote :: (escape text ++ quote :: rest))

variable {escape : List UInt8 → List UInt8} {texts : List (List UInt8)} {bytes needle : List UInt8}

theorem not_infix_toLower_gap {byte : UInt8} (hmem : byte ∈ needle)
    (hplain : byte ∉ plainBytes.map lowerByte) {gap : List UInt8}
    (hgap : ∀ byte ∈ gap, byte ∈ plainBytes) : ¬ needle <:+: toLower gap := by
  intro hfound
  have hascii : ∀ byte ∈ plainBytes, byte < 128 :=
    @of_decide_eq_true _ (List.decidableBAll _ _) (by decide)
  rw [toLower_of_ascii fun byte hbyte => hascii byte (hgap byte hbyte)] at hfound
  obtain ⟨plain, hin, rfl⟩ := List.mem_map.mp (hfound.subset hmem)
  exact hplain (List.mem_map_of_mem (hgap plain hin))

/-- What the bytes around the texts cannot spell is found in a text or not at all. -/
theorem Written.infix_toLower_iff (h : Written escape texts bytes) (hquote : quote ∉ needle)
    {byte : UInt8} (hmem : byte ∈ needle) (hplain : byte ∉ plainBytes.map lowerByte) :
    needle <:+: toLower bytes ↔ ∃ text ∈ texts, needle <:+: toLower (escape text) := by
  induction h with
  | nil hgap => simp [not_infix_toLower_gap hmem hplain hgap]
  | cons hgap hrest ih =>
    have hlower : lowerByte quote = quote := by decide
    rw [toLower_append_cons (by decide), toLower_append_cons (by decide), hlower,
      infix_append_cons_iff hquote, infix_append_cons_iff hquote, ih]
    simp [not_infix_toLower_gap hmem hplain hgap]

end Json

end DbsMonitor
