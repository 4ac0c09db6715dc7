import EpochVoting.Error
import Mathlib.Data.String.Basic
import Mathlib.Tactic.IntervalCases

/-!
# Addresses in digits

A byte is written as two hexadecimal digits, so the text of an address has 64 of them.  A text
is read as an address if and only if it has 64 digits, of either case, and nothing else
(`Address.exists_parse?_iff`).  What it is read as is then written as the same text in lower
case, and the text of an address is read as that address.

The lower-case digits, as characters, are in the order of their values.  So the texts of
addresses are in the order of the addresses (`Address.compare_text`).
-/

namespace EpochVoting

open Std

namespace Text

/-! ## Texts as lists of characters -/

/-- Comparisons that agree on what is less and on what is equal agree. -/
theorem eq_of_lt_iff_of_eq_iff {o p : Ordering} (hlt : o = .lt ↔ p = .lt)
    (heq : o = .eq ↔ p = .eq) : o = p := by
  cases o <;> cases p <;> simp at hlt heq ⊢

/-- Lists of characters are compared as they are ordered. -/
theorem compare_chars_eq_lt_iff {cs ds : List Char} : compare cs ds = .lt ↔ cs < ds := by
  induction cs generalizing ds with
  | nil =>
    cases ds with
    | nil => exact iff_of_false (by decide) (List.lt_irrefl _)
    | cons d rest => exact iff_of_true rfl (List.nil_lt_cons d rest)
  | cons c rest ih =>
    cases ds with
    | nil => exact iff_of_false nofun (List.not_lt_nil _)
    | cons d rest' =>
      rw [List.compare_cons_cons, Ordering.then_eq_lt, ih, Std.compare_eq_iff_eq,
        LawfulLTCmp.eq_lt_iff_lt, List.cons_lt_cons_iff]

/-- Texts are in the order of their characters. -/
theorem compare_toList (s t : String) : compare s.toList t.toList = compare s t := by
  apply eq_of_lt_iff_of_eq_iff
  · rw [compare_chars_eq_lt_iff, LawfulLTCmp.eq_lt_iff_lt, String.lt_iff_toList_lt]
  · rw [Std.compare_eq_iff_eq, Std.compare_eq_iff_eq, String.ext_iff]

theorem toList_toLower (s : String) : s.toLower.toList = s.toList.map Char.toLower :=
  String.toList_map

namespace Hex

/-- A hexadecimal digit of either case. -/
def IsDigit (c : Char) : Prop :=
  c ∈ "0123456789abcdefABCDEF".toList

instance : DecidablePred IsDigit := fun c =>
  inferInstanceAs (Decidable (c ∈ "0123456789abcdefABCDEF".toList))

/-! ## Single digits -/

theorem value?_digit {value : Nat} (h : value < 16) : value? (digit value) = some value := by
  have hall : ∀ v < 16, value? (digit v) = some v := by decide
  exact hall value h

/-- Every digit has a value, whose digit it is up to its case. -/
theorem IsDigit.value {c : Char} (h : IsDigit c) :
    ∃ v < 16, value? c = some v ∧ digit v = c.toLower := by
  have hall : "0123456789abcdefABCDEF".toList.all fun c =>
      (value? c).any fun v => v < 16 && digit v == c.toLower := by decide
  have hfound := List.all_eq_true.mp hall c h
  cases hvalue : value? c with
  | none =>
    rw [hvalue] at hfound
    cases hfound
  | some v =>
    rw [hvalue, Option.any_some, Bool.and_eq_true, decide_eq_true_iff, beq_iff_eq] at hfound
    exact ⟨v, hfound.1, rfl, hfound.2⟩

/-- Nothing but a digit has a value. -/
theorem isDigit_of_value? {c : Char} {v : Nat} (h : value? c = some v) : IsDigit c := by
  have hrange : (48 ≤ c.toNat ∧ c.toNat ≤ 57) ∨ (97 ≤ c.toNat ∧ c.toNat ≤ 102) ∨
      (65 ≤ c.toNat ∧ c.toNat ≤ 70) := by
    unfold value? at h
    split at h
    · next hrange => exact Or.inl hrange
    · split at h
      · next hrange => exact Or.inr (Or.inl hrange)
      · split at h
        · next hrange => exact Or.inr (Or.inr hrange)
        · cases h
  rw [← Char.ofNat_toNat c]
  generalize c.toNat = n at hrange
  rcases hrange with ⟨hlow, hhigh⟩ | ⟨hlow, hhigh⟩ | ⟨hlow, hhigh⟩ <;>
    interval_cases n <;> decide

theorem digit_of_value? {c : Char} {v : Nat} (h : value? c = some v) :
    v < 16 ∧ digit v = c.toLower := by
  obtain ⟨w, hw, hvalue, hdigit⟩ := (isDigit_of_value? h).value
  cases h.symm.trans hvalue
  exact ⟨hw, hdigit⟩

/-- The digits are in the order of their values. -/
theorem compare_digit {v w : Nat} (hv : v < 16) (hw : w < 16) :
    compare (digit v) (digit w) = compare v w := by
  have hall : ∀ v < 16, ∀ w < 16, compare (digit v) (digit w) = compare v w := by decide
  exact hall v hv w hw

/-! ## The digits of a byte string -/

theorem digits_cons (b : UInt8) (rest : Bytes) :
    digits (b :: rest) = digit (b.toNat / 16) :: digit (b.toNat % 16) :: digits rest :=
  rfl

theorem length_digits (bytes : Bytes) : (digits bytes).length = 2 * bytes.length := by
  induction bytes with
  | nil => rfl
  | cons b rest ih =>
    rw [digits_cons, List.length_cons, List.length_cons, List.length_cons, ih]
    omega

/-- The digits of a byte string are read as that byte string. -/
theorem bytes?_digits (bytes : Bytes) : bytes? (digits bytes) = some bytes := by
  induction bytes with
  | nil => rfl
  | cons b rest ih =>
    have hb := b.toNat_lt
    have hhigh : value? (digit (b.toNat / 16)) = some (b.toNat / 16) := value?_digit (by omega)
    have hlow : value? (digit (b.toNat % 16)) = some (b.toNat % 16) := value?_digit (by omega)
    rw [digits_cons, bytes?, hhigh, hlow, ih]
    show some (UInt8.ofNat (16 * (b.toNat / 16) + b.toNat % 16) :: rest) = some (b :: rest)
    rw [Nat.div_add_mod, UInt8.ofNat_toNat]

/-- What is read as a byte string are its digits, of either case. -/
theorem digits_of_bytes? {cs : List Char} {bytes : Bytes} (h : bytes? cs = some bytes) :
    digits bytes = cs.map Char.toLower ∧ ∀ c ∈ cs, IsDigit c := by
  fun_induction bytes? cs generalizing bytes with
  | case1 =>
    cases h
    exact ⟨rfl, by simp⟩
  | case2 => cases h
  | case3 high low rest ih =>
    obtain ⟨v, hv, h⟩ := Option.bind_eq_some_iff.mp h
    obtain ⟨w, hw, h⟩ := Option.bind_eq_some_iff.mp h
    obtain ⟨tail, htail, h⟩ := Option.bind_eq_some_iff.mp h
    cases h
    obtain ⟨hdigits, hrest⟩ := ih htail
    obtain ⟨hv16, hhigh⟩ := digit_of_value? hv
    obtain ⟨hw16, hlow⟩ := digit_of_value? hw
    have hbyte : (UInt8.ofNat (16 * v + w)).toNat = 16 * v + w := by
      rw [UInt8.toNat_ofNat']
      omega
    have hquotient : (16 * v + w) / 16 = v := by omega
    have hremainder : (16 * v + w) % 16 = w := by omega
    refine ⟨?_, ?_⟩
    · rw [digits_cons, hbyte, hquotient, hremainder, hhigh, hlow, hdigits]
      rfl
    · exact List.forall_mem_cons.mpr ⟨isDigit_of_value? hv,
        List.forall_mem_cons.mpr ⟨isDigit_of_value? hw, hrest⟩⟩

/-- Any even number of digits is read as a byte string. -/
theorem exists_bytes? {cs : List Char} (heven : cs.length % 2 = 0) (h : ∀ c ∈ cs, IsDigit c) :
    ∃ bytes, bytes? cs = some bytes := by
  fun_induction bytes? cs with
  | case1 => exact ⟨[], rfl⟩
  | case2 => cases heven
  | case3 high low rest ih =>
    obtain ⟨hhigh, hothers⟩ := List.forall_mem_cons.mp h
    obtain ⟨hlow, hrest⟩ := List.forall_mem_cons.mp hothers
    obtain ⟨v, -, hv, -⟩ := hhigh.value
    obtain ⟨w, -, hw, -⟩ := hlow.value
    rw [List.length_cons, List.length_cons] at heven
    obtain ⟨tail, htail⟩ := ih (by omega) hrest
    rw [hv, hw, htail]
    exact ⟨_, rfl⟩

/-! ## The order of digits -/

/-- Bytes are in the order of their high halves, and then of their low halves. -/
theorem compare_halves (b c : UInt8) :
    compare b c = (compare (b.toNat / 16) (c.toNat / 16)).then
      (compare (b.toNat % 16) (c.toNat % 16)) := by
  have hb := Nat.div_add_mod b.toNat 16
  have hc := Nat.div_add_mod c.toNat 16
  apply eq_of_lt_iff_of_eq_iff
  · rw [LawfulLTCmp.eq_lt_iff_lt, UInt8.lt_iff_toNat_lt, Ordering.then_eq_lt, Nat.compare_eq_lt,
      Nat.compare_eq_eq, Nat.compare_eq_lt]
    omega
  · rw [Std.compare_eq_iff_eq, ← UInt8.toNat_inj, Ordering.then_eq_eq, Nat.compare_eq_eq,
      Nat.compare_eq_eq]
    omega

/-- Byte strings are in the order of their digits. -/
theorem compare_digits (bytes others : Bytes) :
    compare (digits bytes) (digits others) = compare bytes others := by
  induction bytes generalizing others with
  | nil =>
    cases others with
    | nil => rfl
    | cons c rest => rfl
  | cons b rest ih =>
    cases others with
    | nil => rfl
    | cons c rest' =>
      have hb := b.toNat_lt
      have hc := c.toNat_lt
      rw [digits_cons, digits_cons, List.compare_cons_cons, List.compare_cons_cons,
        List.compare_cons_cons, ih, compare_halves, compare_digit (by omega) (by omega),
        compare_digit (by omega) (by omega), Ordering.then_assoc]

end Hex
end Text

namespace Address

open Text

variable {s : String} {a : Address}

/-! ## The text of an address -/

theorem ofBytes?_eq_some_iff {bytes : Bytes} : ofBytes? bytes = some a ↔ bytes = a.bytes := by
  unfold ofBytes?
  constructor
  · intro h
    split at h
    · cases h
      rfl
    · cases h
  · rintro rfl
    exact dif_pos a.length_bytes

theorem parse?_eq_some_iff : parse? s = some a ↔ Hex.bytes? s.toList = some a.bytes := by
  unfold parse? Hex.decode?
  rw [Option.bind_eq_some_iff]
  simp only [ofBytes?_eq_some_iff, exists_eq_right]

/-- The text of an address is read as that address. -/
theorem parse?_text (a : Address) : parse? a.text = some a := by
  rw [parse?_eq_some_iff, text, Hex.encode, String.toList_ofList]
  exact Hex.bytes?_digits a.bytes

/-- An address is written as the text it was read from, in lower case. -/
theorem text_of_parse? (h : parse? s = some a) : a.text = s.toLower := by
  obtain ⟨hdigits, -⟩ := Hex.digits_of_bytes? (parse?_eq_some_iff.mp h)
  rw [String.ext_iff, text, Hex.encode, String.toList_ofList, hdigits, toList_toLower]

/-- A text is read as an address if and only if it has 64 digits and nothing else. -/
theorem exists_parse?_iff :
    (∃ a, parse? s = some a) ↔ s.length = 64 ∧ ∀ c ∈ s.toList, Hex.IsDigit c := by
  constructor
  · rintro ⟨a, ha⟩
    obtain ⟨hdigits, hall⟩ := Hex.digits_of_bytes? (parse?_eq_some_iff.mp ha)
    refine ⟨?_, hall⟩
    rw [← String.length_toList, ← List.length_map Char.toLower, ← hdigits, Hex.length_digits,
      a.length_bytes]
  · rintro ⟨hlength, hall⟩
    rw [← String.length_toList] at hlength
    obtain ⟨bytes, hbytes⟩ := Hex.exists_bytes? (by omega) hall
    obtain ⟨hdigits, -⟩ := Hex.digits_of_bytes? hbytes
    have hcount : 2 * bytes.length = 64 := by
      rw [← Hex.length_digits, hdigits, List.length_map, hlength]
    exact ⟨⟨bytes, by omega⟩, parse?_eq_some_iff.mpr hbytes⟩

/-- The texts of addresses are in the order of the addresses. -/
theorem compare_text (a b : Address) : compare a.text b.text = compare a b := by
  rw [← compare_toList, text, text, Hex.encode, Hex.encode, String.toList_ofList,
    String.toList_ofList, Hex.compare_digits]
  rfl

/-- A text is read as an address if and only if it has 64 hexadecimal digits and nothing else,
and is refused with its own text otherwise.  The address is written as the text in lower case,
every address is read back from its text, and the texts of addresses are in their order. -/
theorem text_exact :
    (∀ s, (∃ a, parse s = .ok a) ↔ s.length = 64 ∧ ∀ c ∈ s.toList, Hex.IsDigit c) ∧
    (∀ s error, parse s = .error error → error = .invalidAddress s) ∧
    (∀ s a, parse s = .ok a → a.text = s.toLower) ∧
    (∀ a, parse a.text = .ok a) ∧
    ∀ a b : Address, compare a b = compare a.text b.text := by
  refine ⟨fun s => ?_, fun s error h => ?_, fun s a h => ?_, fun a => ?_, fun a b => ?_⟩
  · simp only [parse, demand_eq_ok_iff]
    exact exists_parse?_iff
  · unfold parse at h
    cases hparse : parse? s with
    | some a =>
      rw [hparse] at h
      cases h
    | none =>
      rw [hparse] at h
      cases h
      rfl
  · exact text_of_parse? (demand_eq_ok_iff.mp h)
  · exact demand_eq_ok_iff.mpr (parse?_text a)
  · exact (compare_text a b).symm

/-- Digits of both cases are read and written in lower case; four digits are too few. -/
theorem text_exact_mixed :
    (∃ a, parse "00112233445566778899aAbBcCdDeEfF00112233445566778899AABBCCDDEEFF" = .ok a ∧
      a.text = "00112233445566778899aabbccddeeff00112233445566778899aabbccddeeff") ∧
    parse "abcd" = .error (.invalidAddress "abcd") := by
  obtain ⟨haccepts, hrefuses, hwrites, -⟩ := text_exact
  constructor
  · have hdigits : "00112233445566778899aAbBcCdDeEfF00112233445566778899AABBCCDDEEFF".toList.all
        fun c => decide (Hex.IsDigit c) := by decide
    obtain ⟨a, ha⟩ := (haccepts _).mpr
      ⟨rfl, fun c hc => of_decide_eq_true (List.all_eq_true.mp hdigits c hc)⟩
    refine ⟨a, ha, (hwrites _ a ha).trans ?_⟩
    rw [String.ext_iff, toList_toLower]
    decide
  · cases h : parse "abcd" with
    | ok a => exact absurd ((haccepts "abcd").mp ⟨a, h⟩).1 (by decide)
    | error error => rw [hrefuses "abcd" error h]

end Address
end EpochVoting
