import ActionSchema.Text.Lines
import ActionSchema.Proofs.ByteOrder
import Mathlib.Data.List.Basic

/-! Where lines end. A stream is cut at its line feeds, one line after the other, and a carriage
return at the end of a line is a character of its own wherever it is kept. -/

namespace ActionSchema.Text

theorem consByte_nil {b : UInt8} (h : lineFeed ≠ b) : consByte b [] = [[b]] := if_neg h.symm

theorem consByte_cons {b : UInt8} (h : lineFeed ≠ b) (line : List UInt8)
    (rest : List (List UInt8)) : consByte b (line :: rest) = (b :: line) :: rest := if_neg h.symm

theorem rawLines_of_not_mem {line : List UInt8} (h : lineFeed ∉ line) (hne : line ≠ []) :
    rawLines line = [line] := by
  induction line with
  | nil => exact absurd rfl hne
  | cons b line ih =>
    rw [List.mem_cons, not_or] at h
    obtain ⟨hb, hline⟩ := h
    rw [rawLines_cons]
    cases line with
    | nil => exact consByte_nil hb
    | cons b' line => rw [ih hline (List.cons_ne_nil b' line), consByte_cons hb]

theorem rawLines_append_feed {line : List UInt8} (h : lineFeed ∉ line) (rest : List UInt8) :
    rawLines (line ++ lineFeed :: rest) = (line ++ [lineFeed]) :: rawLines rest := by
  induction line with
  | nil => exact (rawLines_cons ..).trans (if_pos rfl)
  | cons b line ih =>
    rw [List.mem_cons, not_or] at h
    obtain ⟨hb, hline⟩ := h
    rw [List.cons_append, rawLines_cons, ih hline, consByte_cons hb, List.cons_append]

@[elab_as_elim]
theorem lines_induction {P : List UInt8 → Prop} (last : ∀ line, lineFeed ∉ line → P line)
    (more : ∀ line rest, lineFeed ∉ line → P rest → P (line ++ lineFeed :: rest))
    (bytes : List UInt8) : P bytes := by
  induction hlength : bytes.length using Nat.strongRecOn generalizing bytes with
  | ind n ih =>
    by_cases hfeed : lineFeed ∈ bytes
    · obtain ⟨line, rest, rfl, hline⟩ := List.eq_append_cons_of_mem hfeed
      refine more line rest hline (ih rest.length ?_ rest rfl)
      rw [← hlength, List.length_append, List.length_cons]
      omega
    · exact last bytes hfeed

def decode? (bytes : List UInt8) : Option String := String.fromUTF8? ⟨bytes.toArray⟩

theorem decode?_eq_some_iff {bytes : List UInt8} {text : String} :
    decode? bytes = some text ↔ utf8 text = bytes := by
  unfold decode? String.fromUTF8?
  constructor
  · intro h
    split at h
    · obtain rfl := Option.some.inj h
      rfl
    · cases h
  · rintro rfl
    have hbytes : (⟨(utf8 text).toArray⟩ : ByteArray) = text.toUTF8 := by
      rw [utf8, Array.toArray_toList]
    rw [hbytes, String.toUTF8_eq_toByteArray, dif_pos text.isValidUTF8]
    rfl

theorem eq_return_of_getLast? {c : Char}
    (h : (String.utf8EncodeChar c).getLast? = some carriageReturn) : c = '\r' := by
  have hbyte {n : Nat} (hn : n < 256) : (UInt8.ofNat n).toNat = n := UInt8.toNat_ofNat_of_lt hn
  have hreturn : carriageReturn.toNat = 13 := rfl
  unfold String.utf8EncodeChar at h
  simp only [] at h
  -- the last of several bytes is at least 128
  split_ifs at h <;>
    simp (disch := omega) only [List.getLast?_cons_cons, List.getLast?_singleton,
      Option.some.injEq, ← UInt8.toNat_inj, hbyte, hreturn] at h <;> try omega
  exact Char.ext (UInt32.toNat_inj.mp h)

theorem decode?_append_return (bytes : List UInt8) :
    decode? (bytes ++ [carriageReturn]) = (decode? bytes).map (· ++ "\r") := by
  have hreturn : utf8 "\r" = [carriageReturn] := by decide
  have happend (s t : String) : utf8 (s ++ t) = utf8 s ++ utf8 t := by
    simp only [utf8_eq_flatMap, String.toList_append, List.flatMap_append]
  apply Option.ext
  intro text
  rw [decode?_eq_some_iff, Option.map_eq_some_iff]
  constructor
  · intro h
    -- the last character of the text is the one that the last byte belongs to
    rcases List.eq_nil_or_concat text.toList with hnil | ⟨cs, c, hcs⟩
    · rw [utf8_eq_flatMap, hnil] at h
      cases (List.append_ne_nil_of_right_ne_nil bytes (List.cons_ne_nil _ _)) h.symm
    · rw [List.concat_eq_append] at hcs
      have hlast : (utf8 text).getLast? = (String.utf8EncodeChar c).getLast? := by
        rw [utf8_eq_flatMap, hcs, List.flatMap_append, List.flatMap_singleton]
        rw [List.getLast?_append, List.getLast?_eq_some_getLast String.utf8EncodeChar_ne_nil]
        rfl
      rw [h, List.getLast?_concat] at hlast
      obtain rfl := eq_return_of_getLast? hlast.symm
      have htext : text = String.ofList cs ++ "\r" := by
        rw [← String.toList_inj, hcs, String.toList_append, String.toList_ofList]
        rfl
      rw [htext, happend, hreturn] at h
      exact ⟨_, decode?_eq_some_iff.mpr (List.append_cancel_right h), htext.symm⟩
  · rintro ⟨text, htext, rfl⟩
    rw [happend, hreturn, decode?_eq_some_iff.mp htext]

theorem lineText?_of_not_mem {line : List UInt8} (h : lineFeed ∉ line) :
    lineText? line = decode? line := by
  have hlast : line.getLast? ≠ some lineFeed := fun e => h (List.mem_of_getLast? e)
  rw [lineText?, chomp, if_neg hlast, decode?]

theorem lineText?_append_feed (line : List UInt8) :
    lineText? (line ++ [lineFeed]) = decode? line ∨
      decode? line = (lineText? (line ++ [lineFeed])).map (· ++ "\r") := by
  have hfeed : (line ++ [lineFeed]).getLast? = some lineFeed := List.getLast?_concat
  rw [lineText?, chomp, if_pos hfeed, List.dropLast_concat]
  simp only []
  split
  · next hreturn =>
    obtain ⟨body, rfl⟩ := List.getLast?_eq_some_iff.mp hreturn
    rw [List.dropLast_concat]
    exact .inr (decode?_append_return body)
  · exact .inl rfl

def withReturns (bytes : List UInt8) : List UInt8 :=
  bytes.flatMap fun b => if b = lineFeed then [carriageReturn, lineFeed] else [b]

theorem withReturns_of_not_mem {line : List UInt8} (h : lineFeed ∉ line) :
    withReturns line = line := by
  have hkeep : ∀ b ∈ line,
      (if b = lineFeed then [carriageReturn, lineFeed] else [b]) = [b] := by
    intro b hb
    exact if_neg (ne_of_mem_of_not_mem hb h)
  rw [withReturns, List.flatMap_congr hkeep, List.flatMap_singleton']

theorem withReturns_append_feed {line : List UInt8} (h : lineFeed ∉ line) (rest : List UInt8) :
    withReturns (line ++ lineFeed :: rest) =
      (line ++ [carriageReturn]) ++ lineFeed :: withReturns rest := by
  have hline := withReturns_of_not_mem h
  unfold withReturns at hline ⊢
  rw [List.flatMap_append, hline, List.flatMap_cons, if_pos rfl, List.append_assoc]
  rfl

end ActionSchema.Text
