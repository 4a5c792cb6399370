import BrowserSuite.Json.Printer
import BrowserSuite.Json.Reader

/-!
# Strings between quotation marks

What is written between quotation marks is read back, whatever follows the closing one
(`stringOf_escape`).  So a written text shows where it ends and what it is of (`quote_append_inj`):
no escape can be taken for another one, for the characters that it is made of, or for the end of
the text.
-/

namespace BrowserSuite.Json

variable {c : Char} {s t rest rest' : List Char}

theorem hexValue?_hexDigit {n : Nat} (h : n < 16) : hexValue? (hexDigit n) = some n := by
  have hdigits : ∀ n < 16, hexValue? (hexDigit n) = some n := by decide
  exact hdigits n h

/-- The code of a character is the number that is escaped. -/
theorem escapedChar_control (h : c.toNat < 0x20) (rest : List Char) :
    escapedChar ('u' :: '0' :: '0' :: hexDigit (c.toNat / 16) :: hexDigit (c.toNat % 16) :: rest) =
      .ok (c, rest) := by
  have hfour : hexFour ('0' :: '0' :: hexDigit (c.toNat / 16) :: hexDigit (c.toNat % 16) :: rest) =
      .ok (c.toNat, rest) := by
    have hzero : hexValue? '0' = some 0 := by decide
    rw [hexFour, hzero, hexValue?_hexDigit (by omega), hexValue?_hexDigit (by omega)]
    simp only [Except.ok.injEq, Prod.mk.injEq, and_true]
    omega
  have hhigh : ¬(0xDC00 ≤ c.toNat ∧ c.toNat ≤ 0xDFFF) := by omega
  have hlow : ¬(0xD800 ≤ c.toNat ∧ c.toNat ≤ 0xDBFF) := by omega
  simp [escapedChar, hfour, bind, Except.bind, hhigh, hlow, pure, Except.pure, Char.ofNat_toNat]

/-- A character stands for itself, or it is written as an escape that is read as it. -/
theorem escapeChar_cases (c : Char) :
    (escapeChar c = [c] ∧ c ≠ '"' ∧ c ≠ '\\' ∧ ¬c.toNat < 0x20) ∨
      ∃ code, escapeChar c = '\\' :: code ∧
        ∀ rest, escapedChar (code ++ rest) = .ok (c, rest) := by
  by_cases hletter : c ∈ ['"', '\\', '\x08', '\x0c', '\n', '\r', '\t']
  · simp only [List.mem_cons, List.not_mem_nil, or_false] at hletter
    rcases hletter with rfl | rfl | rfl | rfl | rfl | rfl | rfl <;>
      exact .inr ⟨_, rfl, fun _ => rfl⟩
  · simp only [List.mem_cons, List.not_mem_nil, or_false, not_or] at hletter
    obtain ⟨hquote, hslash, hback, hfeed, hline, hreturn, htab⟩ := hletter
    rw [escapeChar, if_neg hquote, if_neg hslash, if_neg hback, if_neg hfeed, if_neg hline,
      if_neg hreturn, if_neg htab]
    by_cases hcontrol : c.toNat < 0x20
    · rw [if_pos hcontrol]
      exact .inr ⟨_, rfl, escapedChar_control hcontrol⟩
    · rw [if_neg hcontrol]
      exact .inl ⟨rfl, hquote, hslash, hcontrol⟩

/-- A character that is written is the next one that is read. -/
theorem stringBody_escapeChar (fuel : Nat) (done : List Char) (c : Char) (rest : List Char) :
    stringBody (fuel + 1) done (escapeChar c ++ rest) = stringBody fuel (c :: done) rest := by
  rcases escapeChar_cases c with ⟨hplain, hquote, hslash, hcontrol⟩ | ⟨code, hcode, hread⟩
  · rw [hplain, List.singleton_append, stringBody, if_neg hquote, if_neg hslash, if_neg hcontrol]
  · rw [hcode, List.cons_append, stringBody, if_neg (by decide), if_pos rfl, hread]
    rfl

theorem length_le_escape (s : List Char) : s.length ≤ (escape s).length := by
  induction s with
  | nil => exact Nat.le_refl 0
  | cons c s ih =>
      have hpos : 0 < (escapeChar c).length := by
        rcases escapeChar_cases c with ⟨hplain, -⟩ | ⟨code, hcode, -⟩
        · simp [hplain]
        · simp [hcode]
      rw [escape, List.length_append, List.length_cons]
      omega

theorem stringBody_escape {fuel : Nat} (h : s.length < fuel) (done rest : List Char) :
    stringBody fuel done (escape s ++ '"' :: rest) =
      .ok (String.ofList (done.reverse ++ s), rest) := by
  induction s generalizing fuel done with
  | nil =>
      obtain ⟨fuel, rfl⟩ := Nat.exists_eq_succ_of_ne_zero (Nat.ne_of_gt h)
      rw [escape, List.nil_append, List.append_nil, stringBody, if_pos rfl]
  | cons c s ih =>
      obtain ⟨fuel, rfl⟩ := Nat.exists_eq_succ_of_ne_zero (Nat.ne_of_gt (Nat.zero_lt_of_lt h))
      rw [escape, List.append_assoc, stringBody_escapeChar, ih (Nat.lt_of_succ_lt_succ h)]
      simp

/-- What is written between quotation marks is read back. -/
theorem stringOf_escape (s rest : List Char) :
    stringOf (escape s ++ '"' :: rest) = .ok (String.ofList s, rest) := by
  have hlength := length_le_escape s
  rw [stringOf, stringBody_escape (by rw [List.length_append]; omega), List.reverse_nil,
    List.nil_append]

/-- A text between quotation marks is told apart from every other one, whatever follows. -/
theorem quote_append_inj (h : quote s ++ rest = quote t ++ rest') : s = t ∧ rest = rest' := by
  have hread (s rest : List Char) :
      stringOf ((quote s ++ rest).tail) = .ok (String.ofList s, rest) := by
    simpa [quote] using stringOf_escape s rest
  have heq : Except.ok (String.ofList s, rest) = Except.ok (String.ofList t, rest') :=
    (hread s rest).symm.trans (h ▸ hread t rest')
  obtain ⟨htexts, hrests⟩ := Prod.mk.inj (Except.ok.inj heq)
  exact ⟨String.ofList_injective htexts, hrests⟩

end BrowserSuite.Json
