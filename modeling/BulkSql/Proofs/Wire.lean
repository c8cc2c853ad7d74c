import BulkSql.Proofs.Notation
import BulkSql.Value.Wire

/-!
What a server reads from the binary form of a parameter. It is the value that was given, or nothing
was written: an integer that a type has no room for is refused, and never cut.
-/
namespace BulkSql

/-! ### Forms -/

/-- The text that some bytes are. -/
def Utf8.text? (bytes : List UInt8) : Option String := String.fromUTF8? bytes.toByteArray

theorem Utf8.text?_bytes (s : String) : text? (bytes s.toList) = some s := by
  have whole : (bytes s.toList).toByteArray = s.toByteArray := String.utf8Encode_toList
  have valid : (bytes s.toList).toByteArray.IsValidUTF8 := whole ▸ s.isValidUTF8
  rw [text?, String.fromUTF8?, dif_pos valid]
  exact congrArg some (String.toByteArray_inj.1 whole)

namespace Wire

/-- The number that some bytes are, most significant first. -/
def number : List UInt8 → Nat
  | [] => 0
  | b :: bs => b.toNat * 256 ^ bs.length + number bs

/-- The integer that some bytes are in two's complement, if there are `count` of them. -/
def integer? (count : Nat) (bytes : List UInt8) : Option Int :=
  if bytes.length = count then some ((number bytes : Int).bmod (256 ^ count)) else none

/-- The integers that `count` bytes have room for. -/
def IsSized (count : Nat) (i : Int) : Prop :=
  -(2 ^ (8 * count - 1) : Int) ≤ i ∧ i < 2 ^ (8 * count - 1)

instance (count : Nat) (i : Int) : Decidable (IsSized count i) :=
  inferInstanceAs (Decidable (_ ∧ _))

@[simp] theorem length_bigEndian (count n : Nat) : (bigEndian count n).length = count := by
  induction count with
  | zero => rfl
  | succ count ih => rw [bigEndian, List.length_cons, ih]

theorem number_bigEndian (count n : Nat) : number (bigEndian count n) = n % 256 ^ count := by
  induction count with
  | zero => simp [bigEndian, number, Nat.mod_one]
  | succ count ih =>
    have first : (UInt8.ofNat (n / Nat.pow 256 count)).toNat = n / 256 ^ count % 256 :=
      UInt8.toNat_ofNat'
    rw [bigEndian, number, length_bigEndian, ih, first, Nat.pow_succ, Nat.mod_mul]
    ring

/-- An integer that there is room for is read from its two's complement. -/
theorem integer?_twosComplement {count : Nat} (wide : 0 < count) {i : Int} (h : IsSized count i) :
    integer? count (twosComplement count i) = some i := by
  have halves : 256 ^ count = 2 * 2 ^ (8 * count - 1) := by
    rw [← pow_succ', Nat.sub_add_cancel (by omega), pow_mul]
    rfl
  have pos : (0 : Int) < (256 ^ count : Nat) := by positivity
  have inside : (i % (256 ^ count : Nat)).toNat < 256 ^ count := by
    have := Int.emod_lt_of_pos i pos
    omega
  have back : ((i % (256 ^ count : Nat)).toNat : Int) = i % (256 ^ count : Nat) :=
    Int.toNat_of_nonneg (Int.emod_nonneg _ pos.ne')
  obtain ⟨lower, upper⟩ := h
  have value : (number (twosComplement count i) : Int).bmod (256 ^ count) = i := by
    rw [twosComplement, number_bigEndian, Nat.pow_eq, Nat.mod_eq_of_lt inside, back, Int.emod_bmod]
    refine Int.bmod_eq_of_le ?_ ?_
    · rw [halves]
      push_cast
      omega
    · rw [halves]
      push_cast
      omega
  rw [integer?, if_pos (by rw [twosComplement, length_bigEndian]), value]

/-! ### Writing -/

variable (buffer : List UInt8)

theorem put_eq (bytes : List UInt8) : put bytes buffer = (.ok false, buffer ++ bytes) := rfl

theorem putIf_eq (accepted : Bool) (bytes : List UInt8) :
    putIf accepted bytes buffer =
      if accepted then (.ok false, buffer ++ bytes) else (.error .wrongType, buffer) := by
  cases accepted <;> rfl

theorem putSized_eq (count : Nat) (i : Int) :
    putSized count i buffer =
      if IsSized count i then (.ok false, buffer ++ twosComplement count i)
      else (.error .outOfRange, buffer) := by
  have half : ((twoTo (8 * count - 1) : Nat) : Int) = 2 ^ (8 * count - 1) := by
    rw [twoTo, Nat.pow_eq]
    push_cast
    rfl
  unfold putSized
  rw [half]
  by_cases h : IsSized count i
  · rw [if_pos h]
    exact congrFun (if_pos h) buffer
  · rw [if_neg h]
    exact congrFun (if_neg h) buffer

end Wire

/-! ### Reading -/

namespace ParameterType

open Wire

def isFloat : ParameterType → Bool
  | float4 | float8 => true
  | _ => false

/-- How many bytes the integers of a type have. -/
def width? : ParameterType → Option Nat
  | int2 => some 2
  | int4 => some 4
  | int8 => some 8
  | _ => none

/-- The types that a value can be sent to, as far as its kind goes. -/
def takes (type : ParameterType) : Value → Bool
  | .bool _ => type == .bool
  | .int _ => type.width?.isSome || [.text, .varchar, .bpchar].contains type
  | .text _ => type.isText
  | .bytes _ => type == .bytea
  | .uuid _ => type == .uuid
  | _ => false

/-- The value that a server reads from the bytes of a parameter. -/
def read? (type : ParameterType) (bytes : List UInt8) : Option Value :=
  match type, bytes with
  | .bool, [b] => some (.bool (b != 0))
  | .bytea, bytes => some (.bytes bytes)
  | .uuid, bytes => if h : bytes.length = 16 then some (.uuid ⟨bytes, h⟩) else none
  | type, bytes =>
    match type.width? with
    | some count => (integer? count bytes).map fun i => .int (.ofInt i)
    | none =>
      if type.isText && type.version.isPrefixOf bytes then
        (Utf8.text? (bytes.drop type.version.length)).map .text
      else none

theorem read?_integer {type : ParameterType} {count : Nat} (width : type.width? = some count)
    {i : Int64} (h : IsSized count i.toInt) :
    type.read? (twosComplement count i.toInt) = some (.int i) := by
  have number (pos : 0 < count) :
      (integer? count (twosComplement count i.toInt)).map (fun i => Value.int (.ofInt i)) =
        some (.int i) := by
    rw [integer?_twosComplement pos h, Option.map_some, Int64.ofInt_toInt]
  cases type with
  | int2 | int4 | int8 =>
    obtain rfl := Option.some.inj width
    exact number (by decide)
  | _ => cases width

theorem read?_text {type : ParameterType} (text : type.isText = true) (s : String) :
    type.read? (type.version ++ Utf8.bytes s.toList) = some (.text s) := by
  have read : (if type.isText && type.version.isPrefixOf (type.version ++ Utf8.bytes s.toList) then
      (Utf8.text? ((type.version ++ Utf8.bytes s.toList).drop type.version.length)).map Value.text
      else none) = some (.text s) := by
    rw [if_pos (by simp [text]), List.drop_left, Utf8.text?_bytes, Option.map_some]
  cases type with
  | text | varchar | bpchar | name | unknown | other => exact read
  | _ => cases text

end ParameterType

namespace Value

open Wire

/-- A value that is neither NULL nor a float, an instant or a document. -/
def isPlain : Value → Bool
  | .bool _ | .int _ | .text _ | .bytes _ | .uuid _ => true
  | _ => false

/-- What arrives of a value: of an integer that is sent as a text, its decimal digits. -/
def arriving (type : ParameterType) : Value → Value
  | .int i => if type.isText then .text (toString i.toInt) else .int i
  | v => v

/-- Integers have room in a type of integers. -/
def HasRoom (type : ParameterType) (v : Value) : Prop :=
  ∀ i count, v = .int i → type.width? = some count → IsSized count i.toInt

theorem isSized_toInt (i : Int64) : IsSized 8 i.toInt :=
  ⟨i.minValue_le_toInt, Int.lt_add_one_of_le i.toInt_le⟩

section Cases

variable {v : Value} {type : ParameterType} {buffer : List UInt8}

/-- What becomes of a value. Only what has been accepted is written, and that is read as the
value. -/
inductive Written (v : Value) (type : ParameterType) (buffer : List UInt8) :
    Except WireFault Bool × List UInt8 → Prop
  | wrongType (h : type.takes v = false) : Written v type buffer (.error .wrongType, buffer)
  | outOfRange (h : type.takes v = true) (big : ¬ v.HasRoom type) :
    Written v type buffer (.error .outOfRange, buffer)
  | appended {bytes} (h : type.takes v = true) (room : v.HasRoom type)
    (read : type.read? bytes = some (v.arriving type)) :
    Written v type buffer (.ok false, buffer ++ bytes)

theorem hasRoom_of_not_int (h : ∀ i, v ≠ .int i) : v.HasRoom type :=
  fun i _ is => absurd is (h i)

theorem hasRoom_int_iff {i : Int64} {count : Nat} (width : type.width? = some count) :
    (Value.int i).HasRoom type ↔ IsSized count i.toInt := by
  constructor
  · exact fun room => room i count rfl width
  · intro h j c same width'
    cases same
    cases width.symm.trans width'
    exact h

/-- A value that is no integer is written for the types that take it. -/
theorem Written.of_putIf {bytes : List UInt8} (other : ∀ i, v ≠ .int i)
    (read : type.takes v = true → type.read? bytes = some v) (same : v.arriving type = v) :
    Written v type buffer (putIf (type.takes v) bytes buffer) := by
  rw [putIf_eq]
  cases takes : type.takes v with
  | true => exact .appended takes (hasRoom_of_not_int other) (same.symm ▸ read takes)
  | false => exact .wrongType takes

/-- An integer is written for a type of integers if there is room for it. -/
theorem Written.of_putSized {i : Int64} {count : Nat} (width : type.width? = some count)
    (number : type.isText = false) :
    Written (.int i) type buffer (putSized count i.toInt buffer) := by
  have takes : type.takes (.int i) = true := by simp [ParameterType.takes, width]
  rw [putSized_eq]
  by_cases room : IsSized count i.toInt
  · rw [if_pos room]
    refine .appended takes ((hasRoom_int_iff width).2 room) ?_
    simp only [arriving, number, Bool.false_eq_true, if_false]
    exact ParameterType.read?_integer width room
  · rw [if_neg room]
    exact .outOfRange takes (mt (hasRoom_int_iff width).1 room)

/-- For a type of texts an integer is written in digits. -/
theorem Written.of_digits {i : Int64} (takes : type.takes (.int i) = true) (text : type.isText = true)
    (plain : type.version = []) :
    Written (.int i) type buffer (put (Utf8.bytes (toString i.toInt).toList) buffer) := by
  refine .appended takes ?_ ?_
  · intro j count _ width
    cases type <;> cases width <;> cases text
  · simp only [arriving, text, if_true]
    simpa only [plain, List.nil_append] using ParameterType.read?_text text (toString i.toInt)

theorem Written.of_int (i : Int64) (unfloating : type.isFloat = false) :
    Written (.int i) type buffer ((Value.int i).write type buffer) := by
  cases type with
  | int2 | int4 => exact Written.of_putSized rfl rfl
  | int8 =>
    have written : Written (.int i) .int8 buffer (putSized 8 i.toInt buffer) :=
      Written.of_putSized rfl rfl
    rwa [putSized_eq, if_pos (isSized_toInt i)] at written
  | text | varchar | bpchar => exact Written.of_digits rfl rfl rfl
  | float4 | float8 => cases unfloating
  | _ => exact .wrongType rfl

theorem Written.of_write (plain : v.isPlain = true) (unfloating : type.isFloat = false) :
    Written v type buffer (v.write type buffer) := by
  cases v with
  | int i => exact Written.of_int i unfloating
  | bool b =>
    refine Written.of_putIf nofun (fun takes => ?_) rfl
    obtain rfl : type = .bool := by simpa [ParameterType.takes] using takes
    cases b <;> rfl
  | text s =>
    exact Written.of_putIf nofun (fun takes => ParameterType.read?_text takes s) rfl
  | bytes b =>
    refine Written.of_putIf nofun (fun takes => ?_) rfl
    obtain rfl : type = .bytea := by simpa [ParameterType.takes] using takes
    rfl
  | uuid u =>
    refine Written.of_putIf nofun (fun takes => ?_) rfl
    obtain rfl : type = .uuid := by simpa [ParameterType.takes] using takes
    exact dif_pos u.length_bytes
  | _ => cases plain

end Cases

/-- An integer is out of range for the types that have less room than it needs. -/
theorem write_int_outOfRange_iff (i : Int64) (type : ParameterType) (buffer : List UInt8) :
    ((Value.int i).write type buffer).1 = .error .outOfRange ↔
      (type = .int2 ∨ type = .int4) ∧ ¬ (Value.int i).HasRoom type := by
  have sized (type : ParameterType) {count : Nat} (width : type.width? = some count) :
      (putSized count i.toInt buffer).1 = .error .outOfRange ↔ ¬ (Value.int i).HasRoom type := by
    rw [putSized_eq, hasRoom_int_iff width]
    split
    · next room => simp [room]
    · next room => simp [room]
  cases type with
  | int2 => exact (sized .int2 rfl).trans (by simp)
  | int4 => exact (sized .int4 rfl).trans (by simp)
  | _ => simp [write, put_eq, putIf_eq]

theorem arriving_int_inj {type : ParameterType} {i j : Int64}
    (h : (Value.int i).arriving type = (Value.int j).arriving type) : i = j := by
  cases text : type.isText with
  | true =>
    simp only [arriving, text, if_true, Value.text.injEq] at h
    exact Int64.toInt_inj.1 (DecimalNotation.toString_toList_inj.1 (congrArg String.toList h))
  | false => simpa [arriving, text] using h

/-- A truth, an integer, a text, bytes or an identifier is either refused, and then the buffer stays
as it was, or its binary form is added to the buffer, from which a server reads the value; of an
integer sent as a text it reads the decimal digits. It is refused for a wrong type exactly where the
type takes no values of the kind, and as out of range exactly if it is an integer without room in
the two or four bytes of its type. No two integers have one form for a type. -/
theorem write_arrives :
    (∀ (v : Value) (type : ParameterType) (buffer : List UInt8),
      v.isPlain = true → type.isFloat = false →
        ((∃ fault, v.write type buffer = (.error fault, buffer)) ∨
          ∃ bytes, v.write type buffer = (.ok false, buffer ++ bytes) ∧
            type.read? bytes = some (v.arriving type)) ∧
        ((v.write type buffer).1 = .error .wrongType ↔ type.takes v = false)) ∧
    (∀ (i : Int64) (type : ParameterType) (buffer : List UInt8),
      ((Value.int i).write type buffer).1 = .error .outOfRange ↔
        type = .int2 ∧ ¬ (-2 ^ 15 ≤ i.toInt ∧ i.toInt < 2 ^ 15) ∨
          type = .int4 ∧ ¬ (-2 ^ 31 ≤ i.toInt ∧ i.toInt < 2 ^ 31)) ∧
    ∀ (i j : Int64) (type : ParameterType) (a b bytes : List UInt8), type.isFloat = false →
      (Value.int i).write type a = (.ok false, a ++ bytes) →
      (Value.int j).write type b = (.ok false, b ++ bytes) → i = j := by
  refine ⟨fun v type buffer plain unfloating => ?_, fun i type buffer => ?_, ?_⟩
  · generalize e : v.write type buffer = result
    cases e ▸ Written.of_write plain unfloating with
    | wrongType takes => exact ⟨.inl ⟨_, rfl⟩, by simp [takes]⟩
    | outOfRange takes => exact ⟨.inl ⟨_, rfl⟩, by simp [takes]⟩
    | appended takes _ read => exact ⟨.inr ⟨_, rfl, read⟩, by simp [takes]⟩
  · have two : (Value.int i).HasRoom .int2 ↔ -2 ^ 15 ≤ i.toInt ∧ i.toInt < 2 ^ 15 :=
      hasRoom_int_iff (show ParameterType.int2.width? = some 2 from rfl)
    have four : (Value.int i).HasRoom .int4 ↔ -2 ^ 31 ≤ i.toInt ∧ i.toInt < 2 ^ 31 :=
      hasRoom_int_iff (show ParameterType.int4.width? = some 4 from rfl)
    rw [write_int_outOfRange_iff, ← two, ← four]
    constructor
    · rintro ⟨rfl | rfl, room⟩
      · exact .inl ⟨rfl, room⟩
      · exact .inr ⟨rfl, room⟩
    · rintro (⟨rfl, room⟩ | ⟨rfl, room⟩)
      · exact ⟨.inl rfl, room⟩
      · exact ⟨.inr rfl, room⟩
  · intro i j type a b bytes unfloating first second
    have read {i : Int64} {a : List UInt8}
        (h : (Value.int i).write type a = (.ok false, a ++ bytes)) :
        type.read? bytes = some ((Value.int i).arriving type) := by
      have known : Written (.int i) type a ((Value.int i).write type a) := Written.of_int i unfloating
      rw [h] at known
      generalize e : a ++ bytes = all at known
      cases known with
      | appended _ _ read => exact List.append_cancel_left e ▸ read
    exact arriving_int_inj (Option.some.inj ((read first).symm.trans (read second)))

/-- The least integer of two bytes, one below it, an integer in digits and a text of an extension,
behind what was written before. -/
theorem write_arrives_least :
    (∃ bytes, (Value.int (-32768)).write .int2 [7] = (.ok false, [7] ++ bytes) ∧
      bytes = [0x80, 0x00] ∧ ParameterType.int2.read? bytes = some (.int (-32768))) ∧
    ((Value.int (-32769)).write .int2 [7]).1 = .error .outOfRange ∧
    (∃ bytes, (Value.int (-5)).write .varchar [7] = (.ok false, [7] ++ bytes) ∧
      bytes = [0x2d, 0x35] ∧ ParameterType.varchar.read? bytes = some (.text "-5")) ∧
    (∃ bytes, (Value.text "é").write (.other "ltree") [7] = (.ok false, [7] ++ bytes) ∧
      bytes = [0x01, 0xc3, 0xa9] ∧
      (ParameterType.other "ltree").read? bytes = some (.text "é")) ∧
    (∀ j : Int64, (Value.int j).write .int2 [] = (.ok false, [] ++ [0x80, 0x00]) → j = -32768) := by
  have written : (Value.int (-32768)).write .int2 [7] = (.ok false, [7] ++ [0x80, 0x00]) := rfl
  have digits : (Value.int (-5)).write .varchar [7] = (.ok false, [7] ++ [0x2d, 0x35]) := rfl
  have versioned : (Value.text "é").write (.other "ltree") [7] =
      (.ok false, [7] ++ [0x01, 0xc3, 0xa9]) := rfl
  have arrives {v : Value} {type : ParameterType} {bytes : List UInt8} (plain : v.isPlain = true)
      (unfloating : type.isFloat = false) (h : v.write type [7] = (.ok false, [7] ++ bytes)) :
      type.read? bytes = some (v.arriving type) := by
    obtain ⟨fault, refused⟩ | ⟨bytes', written, read⟩ :=
      (write_arrives.1 v type [7] plain unfloating).1
    · cases refused.symm.trans h
    · obtain rfl := List.append_cancel_left (Prod.mk.inj (written.symm.trans h)).2
      exact read
  have refused := (write_arrives.2.1 (-32769) .int2 [7]).2 (.inl ⟨rfl, by decide⟩)
  refine ⟨⟨_, written, rfl, arrives rfl rfl written⟩, refused,
    ⟨_, digits, rfl, arrives rfl rfl digits⟩, ⟨_, versioned, rfl, arrives rfl rfl versioned⟩, ?_⟩
  exact fun j same => write_arrives.2.2 j (-32768) .int2 [] [7] [0x80, 0x00] rfl same written

end Value
end BulkSql
