import PointTable.CommandLine.Run
import PointTable.Proofs.Codec.Strings
import PointTable.Proofs.Naming
import PointTable.Proofs.Number.Integer
import PointTable.Proofs.Outcome

/-!
# Printing decoded values

A line that holds a lone surrogate has no UTF-8 form and ends the run that would print it, and so
does an integer that cannot be written. Values that were decoded from words hold neither: integers
have 32 bits, numbers are written in ASCII, texts are made of ASCII and of the replacement
character, and JSON escapes whatever lies beyond ASCII. So a run that comes to such a value prints
it and ends well.
-/

namespace PointTable

namespace Text

/-- The text holds no lone surrogate. -/
def HasUtf8Form (text : String) : Prop :=
  text.toList.all (fun c => !isSurrogate c) = true

instance (text : String) : Decidable (HasUtf8Form text) :=
  inferInstanceAs (Decidable (_ = true))

theorem hasUtf8Form_iff {text : String} :
    HasUtf8Form text ↔ ∀ c ∈ text.toList, isSurrogate c = false := by
  simp [HasUtf8Form]

theorem encodingFault?_eq_none {text : String} (form : HasUtf8Form text) :
    encodingFault? text = none := by
  have whole : text.toList.takeWhile (!isSurrogate ·) = text.toList :=
    List.takeWhile_eq_self_iff.mpr (List.all_eq_true.mp form)
  simp only [encodingFault?, whole, List.drop_length]

theorem isSurrogate_of_lt {c : Char} (low : c.toNat < 0x10D800) : isSurrogate c = false := by
  have below : ¬surrogateShift + 0xD800 ≤ c.toNat := Nat.not_le_of_lt low
  unfold isSurrogate
  rw [decide_eq_false below, Bool.false_and]

theorem isSurrogate_of_isDigit {c : Char} (digit : c.isDigit = true) : isSurrogate c = false := by
  have bounds : 48 ≤ c.toNat ∧ c.toNat ≤ 57 := Char.isDigit_iff_toNat.mp digit
  exact isSurrogate_of_lt (by omega)

theorem isSurrogate_of_isNumeral {c : Char} (numeral : Decimal.IsNumeral c) :
    isSurrogate c = false := by
  rcases numeral with digit | mark
  · exact isSurrogate_of_isDigit digit
  · simp only [List.mem_cons, List.not_mem_nil, or_false] at mark
    rcases mark with rfl | rfl | rfl | rfl <;> decide

/-! ## Parts of texts -/

theorem HasUtf8Form.append {left right : String} (form : HasUtf8Form left)
    (form' : HasUtf8Form right) : HasUtf8Form (left ++ right) := by
  rw [HasUtf8Form, String.toList_append, List.all_append, form, form']
  rfl

theorem HasUtf8Form.intercalate {separator : String} (form : HasUtf8Form separator)
    {parts : List String} (forms : ∀ part ∈ parts, HasUtf8Form part) :
    HasUtf8Form (separator.intercalate parts) := by
  induction parts with
  | nil =>
      rw [String.intercalate_nil]
      decide
  | cons part rest ih =>
      rw [List.forall_mem_cons] at forms
      cases rest with
      | nil => simpa using forms.1
      | cons next rest =>
          rw [String.intercalate_cons_cons]
          exact (forms.1.append form).append (ih forms.2)

theorem mem_of_mem_withoutControls {skip : Nat} {chars : List Char} {c : Char}
    (member : c ∈ withoutControls skip chars) : c ∈ chars := by
  induction chars generalizing skip with
  | nil => simp [withoutControls] at member
  | cons first rest ih =>
      cases skip with
      | succ skip => exact List.mem_cons_of_mem first (ih member)
      | zero =>
          simp only [withoutControls] at member
          split at member
          · exact List.mem_cons_of_mem first (ih member)
          · rcases List.mem_cons.mp member with rfl | later
            · exact List.mem_cons_self
            · exact List.mem_cons_of_mem first (ih later)

theorem HasUtf8Form.printed {text : String} (form : HasUtf8Form text) :
    HasUtf8Form (printed text) := by
  rw [hasUtf8Form_iff] at form ⊢
  intro c member
  rw [Text.printed, String.toList_ofList] at member
  exact form c (mem_of_mem_withoutControls member)

/-! ## Numbers -/

theorem hasUtf8Form_int (n : Int) : HasUtf8Form (toString n) := by
  rw [hasUtf8Form_iff]
  intro c member
  rcases Naming.isDigit_of_mem_int member with rfl | digit
  · decide
  · exact isSurrogate_of_isDigit digit

theorem hasUtf8Form_withSign (negative : Bool) {chars : List Char}
    (numerals : ∀ c ∈ chars, Decimal.IsNumeral c) :
    HasUtf8Form (Double.withSign negative chars) := by
  rw [hasUtf8Form_iff]
  intro c member
  rcases Double.mem_withSign member with rfl | inside
  · decide
  · exact isSurrogate_of_isNumeral (numerals c inside)

theorem hasUtf8Form_infinity (negative : Bool) :
    HasUtf8Form (Double.withSign negative ['i', 'n', 'f']) := by
  cases negative <;> decide

theorem hasUtf8Form_generalText (count : Nat) (x : Double) :
    HasUtf8Form (x.generalText count) := by
  cases x with
  | nan negative => exact (by decide : HasUtf8Form "nan")
  | infinite negative => exact hasUtf8Form_infinity negative
  | finite negative significand exponent canonical =>
      simp only [Double.generalText]
      split
      · exact hasUtf8Form_withSign negative (by simp; decide)
      · exact hasUtf8Form_withSign negative fun c => Decimal.isNumeral_of_mem_text

theorem hasUtf8Form_numberText (x : Double) : HasUtf8Form (Json.numberText x) := by
  cases x with
  | nan negative => exact (by decide : HasUtf8Form "NaN")
  | infinite negative => cases negative <;> decide
  | finite negative significand exponent canonical =>
      rw [hasUtf8Form_iff]
      intro c member
      exact isSurrogate_of_isNumeral (Double.isNumeral_of_mem_text rfl member)

/-! ## Escapes -/

theorem isSurrogate_of_mem_toDigits {n : Nat} {c : Char} (member : c ∈ Nat.toDigits 16 n) :
    isSurrogate c = false := by
  have digit : ∀ value < 16, isSurrogate (Nat.digitChar value) = false := by decide
  induction n using Nat.strong_induction_on with
  | _ n ih =>
      rw [Nat.toDigits_eq_if (by decide)] at member
      split at member
      · next small =>
          rw [List.mem_singleton.mp member]
          exact digit n small
      · next large =>
          rcases List.mem_append.mp member with front | last
          · exact ih (n / 16) (by omega) front
          · rw [List.mem_singleton.mp last]
            exact digit (n % 16) (Nat.mod_lt n (by decide))

theorem isSurrogate_of_mem_unitEscape {unit : Nat} {c : Char} (member : c ∈ Json.unitEscape unit) :
    isSurrogate c = false := by
  simp only [Json.unitEscape, hexText, List.leftpad, List.mem_cons, List.mem_append] at member
  rcases member with rfl | rfl | zero | digit
  · decide
  · decide
  · rw [List.eq_of_mem_replicate zero]
    decide
  · exact isSurrogate_of_mem_toDigits digit

/-- A character of a string in ASCII is escaped by a letter or by its number, or it is printable and
stands for itself. -/
theorem stringChar_cases (c : Char) :
    (∃ letter ∈ ['\x22', '\\', 'n', 'r', 't', 'b', 'f'], Json.stringChar true c = ['\\', letter]) ∨
      Json.stringChar true c = Json.charEscape c ∨
      (Json.stringChar true c = [c] ∧ c.toNat ≤ 0x7E) := by
  unfold Json.stringChar
  iterate 7
    split
    · exact .inl ⟨_, by decide, rfl⟩
  split
  · exact .inr (.inl rfl)
  · next plain =>
      simp only [Bool.true_and, Bool.or_eq_true, decide_eq_true_eq, not_or, Nat.not_lt] at plain
      exact .inr (.inr ⟨rfl, plain.2⟩)

theorem isSurrogate_of_mem_stringChar {source c : Char} (member : c ∈ Json.stringChar true source) :
    isSurrogate c = false := by
  rcases stringChar_cases source with ⟨letter, known, escape⟩ | escape | ⟨kept, low⟩
  · have letters :
        ['\x22', '\\', 'n', 'r', 't', 'b', 'f'].all (fun c => !isSurrogate c) = true := by
      decide
    rw [escape] at member
    rcases List.mem_cons.mp member with rfl | last
    · decide
    · rw [List.mem_singleton.mp last]
      simpa using List.all_eq_true.mp letters letter known
  · rw [escape] at member
    unfold Json.charEscape at member
    split at member
    · exact isSurrogate_of_mem_unitEscape member
    · rcases List.mem_append.mp member with first | second
      · exact isSurrogate_of_mem_unitEscape first
      · exact isSurrogate_of_mem_unitEscape second
  · rw [kept] at member
    rw [List.mem_singleton.mp member]
    exact isSurrogate_of_lt (by omega)

theorem hasUtf8Form_stringText (text : String) : HasUtf8Form (Json.stringText true text) := by
  have inside : HasUtf8Form (String.ofList (text.toList.flatMap (Json.stringChar true))) := by
    rw [hasUtf8Form_iff, String.toList_ofList]
    intro c member
    obtain ⟨source, _, escaped⟩ := List.mem_flatMap.mp member
    exact isSurrogate_of_mem_stringChar escaped
  have quote : HasUtf8Form "\"" := by decide
  exact (quote.append inside).append quote

end Text

/-! ## Values -/

namespace Codec

open Text Number CommandLine

/-- A scalar as it is decoded, which can be written in UTF-8. -/
inductive PlainScalar : Cell → Prop
  | bool (value : Bool) : PlainScalar (.bool value)
  | int {value : Int} (writable : isWritable value = true) : PlainScalar (.int value)
  | float (value : Double) : PlainScalar (.float value)
  | text {value : String} (form : HasUtf8Form value) : PlainScalar (.text value)

/-- A value as it is decoded: a scalar or a list of scalars. -/
inductive PlainValue : Cell → Prop
  | scalar {value : Cell} (scalar : PlainScalar value) : PlainValue value
  | list {items : List Cell} (scalars : ∀ item ∈ items, PlainScalar item) :
      PlainValue (.list items)

theorem PlainScalar.isWritable {value : Cell} (plain : PlainScalar value) :
    value.isWritable = true := by
  cases plain with
  | int writable => exact writable
  | bool _ | float _ | text _ => rfl

theorem PlainValue.isWritable {value : Cell} (plain : PlainValue value) :
    value.isWritable = true := by
  cases plain with
  | scalar scalar => exact scalar.isWritable
  | list scalars =>
      exact Cell.itemsWritable_iff.mpr fun item member => (scalars item member).isWritable

theorem isWritable_bmod (n : Int) {modulus : Nat} (positive : 0 < modulus)
    (few : modulus < 10 ^ 10) : isWritable (n.bmod modulus) = true := by
  have lower := Int.le_bmod (x := n) positive
  have upper := Int.bmod_lt (x := n) positive
  exact isWritable_of_lt_pow 10 (by decide) (by omega)

@[simp] theorem isSurrogate_charOfOctet (octet : Nat) :
    isSurrogate (charOfOctet octet) = false := by
  by_cases ascii : octet < 128
  · have code := toNat_charOfOctet ascii
    exact isSurrogate_of_lt (by omega)
  · rw [charOfOctet, if_neg ascii]
    decide

theorem hasUtf8Form_of_decodeString {data : List Cell} {offset length : Int} {order : StringOrder}
    {text : String} (decoded : decodeString data offset length order = .ok text) :
    HasUtf8Form text := by
  obtain ⟨_, _, decoded⟩ := Outcome.bind_eq_ok.mp decoded
  obtain ⟨words, _, decoded⟩ := Outcome.bind_eq_ok.mp decoded
  obtain rfl := Except.ok.inj decoded
  rw [hasUtf8Form_iff, String.toList_ofList]
  intro c member
  obtain ⟨octet, _, rfl⟩ := List.mem_map.mp member
  exact isSurrogate_charOfOctet octet

section

variable {data : List Cell} {offset registerLength : Int} {orders : Orders}

theorem plainScalar_of_decodeScalar {base : BaseType} {value : Cell}
    (decoded : decodeScalar data offset base registerLength orders = .ok value) :
    PlainScalar value := by
  cases base with
  | bool =>
      obtain ⟨truth, _, rfl⟩ := Outcome.map_eq_ok.mp decoded
      exact .bool truth
  | short =>
      obtain ⟨number, read, rfl⟩ := Outcome.map_eq_ok.mp decoded
      simp only [decodeShort, Outcome.bind_eq_ok, Outcome.pure_eq_ok, Except.ok.injEq] at read
      obtain ⟨_, _, _, _, rfl⟩ := read
      exact .int (isWritable_bmod _ (by decide) (by decide))
  | int =>
      obtain ⟨number, read, rfl⟩ := Outcome.map_eq_ok.mp decoded
      simp only [decodeInt, Outcome.bind_eq_ok, Outcome.pure_eq_ok, Except.ok.injEq] at read
      obtain ⟨_, _, rfl⟩ := read
      exact .int (isWritable_bmod _ (by decide) (by decide))
  | float =>
      obtain ⟨number, _, rfl⟩ := Outcome.map_eq_ok.mp decoded
      exact .float number
  | string =>
      obtain ⟨text, read, rfl⟩ := Outcome.map_eq_ok.mp decoded
      exact .text (hasUtf8Form_of_decodeString read)

theorem plainScalar_of_decodeElements {base : BaseType} {width count : Nat} {values : List Cell}
    (decoded : decodeElements data base width orders offset count = .ok values) :
    ∀ value ∈ values, PlainScalar value := by
  induction count generalizing offset values with
  | zero =>
      obtain rfl := Except.ok.inj decoded
      simp
  | succ count ih =>
      obtain ⟨element, first, decoded⟩ := Outcome.bind_eq_ok.mp decoded
      obtain ⟨others, rest, decoded⟩ := Outcome.bind_eq_ok.mp decoded
      obtain rfl := Except.ok.inj decoded
      exact List.forall_mem_cons.mpr ⟨plainScalar_of_decodeScalar first, ih rest⟩

theorem plainValue_of_decodeValue {pointType : PointType} {arrayLength : Int} {value : Cell}
    (decoded : decodeValue data offset pointType registerLength arrayLength orders = .ok value) :
    PlainValue value := by
  unfold decodeValue at decoded
  split at decoded
  · obtain ⟨values, elements, rfl⟩ := Outcome.map_eq_ok.mp decoded
    exact .list (plainScalar_of_decodeElements elements)
  · exact .scalar (plainScalar_of_decodeScalar decoded)

end

theorem PlainScalar.hasUtf8Form_valueSpelling {value : Cell} (plain : PlainScalar value) :
    HasUtf8Form (valueSpelling value) := by
  cases plain with
  | bool value => cases value <;> decide
  | int _ => exact hasUtf8Form_int _
  | float value => exact hasUtf8Form_generalText 6 value
  | text form => exact form

theorem PlainScalar.hasUtf8Form_write {value : Cell} (plain : PlainScalar value) (level : Nat) :
    HasUtf8Form (Json.write .line level value) := by
  cases plain with
  | bool value =>
      cases value with
      | true => exact (by decide : HasUtf8Form "true")
      | false => exact (by decide : HasUtf8Form "false")
  | int _ => exact hasUtf8Form_int _
  | float value => exact hasUtf8Form_numberText value
  | text form => exact hasUtf8Form_stringText _

theorem hasUtf8Form_enclose {opening closing : String} {parts : List String}
    (opens : HasUtf8Form opening) (closes : HasUtf8Form closing)
    (forms : ∀ part ∈ parts, HasUtf8Form part) (level : Nat) :
    HasUtf8Form (Json.enclose .line level opening closing parts) := by
  unfold Json.enclose
  split
  · exact opens.append closes
  · exact (opens.append (.intercalate (by decide) forms)).append closes

theorem PlainValue.hasUtf8Form_valueSpelling {value : Cell} (plain : PlainValue value) :
    HasUtf8Form (valueSpelling value) := by
  cases plain with
  | scalar scalar => exact scalar.hasUtf8Form_valueSpelling
  | @list items scalars =>
      have forms : ∀ part ∈ items.map valueSpelling, HasUtf8Form part :=
        List.forall_mem_map.mpr fun item member => (scalars item member).hasUtf8Form_valueSpelling
      rw [valueSpelling, valueSpellings_eq_map]
      exact (HasUtf8Form.append (by decide) (.intercalate (by decide) forms)).append (by decide)

theorem PlainValue.hasUtf8Form_write {value : Cell} (plain : PlainValue value) (level : Nat) :
    HasUtf8Form (Json.write .line level value) := by
  cases plain with
  | scalar scalar => exact scalar.hasUtf8Form_write level
  | @list items scalars =>
      rw [Json.write, Json.writeItems_eq_map]
      apply hasUtf8Form_enclose (by decide) (by decide)
      exact List.forall_mem_map.mpr fun item member => (scalars item member).hasUtf8Form_write _

end Codec

namespace CommandLine

open Text Codec

theorem decodedText_ok (json : Bool) (pointType : PointType) {value : Cell}
    (plain : PlainValue value) :
    ∃ text, decodedText json pointType value = .ok text ∧ HasUtf8Form text := by
  cases json with
  | true =>
      have writable : (Cell.record [("type", .text pointType.text), ("value", value)]).isWritable =
          true := by
        simp [Cell.isWritable, Cell.entriesWritable, plain.isWritable]
      refine ⟨_, Number.ifWritable_eq_ok.mpr ⟨writable, rfl⟩, ?_⟩
      have entry : ∀ (key : String) {value : Cell}, HasUtf8Form (Json.write .line 1 value) →
          HasUtf8Form (Json.stringText true key ++ ": " ++ Json.write .line 1 value) :=
        fun key _ form => ((hasUtf8Form_stringText key).append (by decide)).append form
      rw [Json.write]
      apply hasUtf8Form_enclose (by decide) (by decide)
      simp only [Json.writeEntries, List.forall_mem_cons]
      refine ⟨entry "type" ?_, entry "value" (plain.hasUtf8Form_write 1), by simp⟩
      rw [Json.write]
      exact hasUtf8Form_stringText _
  | false =>
      exact ⟨_, Number.ifWritable_eq_ok.mpr ⟨plain.isWritable, rfl⟩,
        plain.hasUtf8Form_valueSpelling⟩

theorem printing_line (log : String) {text : String} (form : HasUtf8Form text) :
    printing log [text] = ⟨0, printed text ++ "\n", escapeSurrogates log, false, none, none⟩ := by
  have line : HasUtf8Form (printed text ++ "\n") := form.printed.append (by decide)
  simp only [printing, encodingFault?_eq_none line, String.append_empty]

end CommandLine

end PointTable
