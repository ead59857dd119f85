import Mathlib
import Tocsin.Json.Reader
import Tocsin.Proofs.Text.Digits

/-!
# JSON that is written compactly reads back

A text is written with escapes for marks and control characters, and a reader undoes them one by
one, whatever follows (`tokens?_quote`).  Values are read by a machine with a stack, so what the
tokens of a value do to it is said for every stack: they put the value in front of it
(`Spelling.run`).  From the spellings of its members comes that of an object
(`exists_spelling_object`), and what is spelled is read (`Spelling.read?_write`).
-/

set_option autoImplicit false

namespace Tocsin.Json

open Tocsin.Text

/-! ## Characters -/

/-- A number of sixteen bits is read back from its four digits. -/
theorem readString_escapeUnit {n : Nat} (h : n < 0x10000) (rest : List Char) :
    readString (escapeUnit n ++ rest) = (readString rest).map fun p => (.inl n :: p.1, p.2) := by
  have hdigits : hexDigits 4 n = [digitChar (n / 16 / 16 / 16 % 16), digitChar (n / 16 / 16 % 16),
      digitChar (n / 16 % 16), digitChar (n % 16)] := rfl
  have hunit : unit? (digitChar (n / 16 / 16 / 16 % 16)) (digitChar (n / 16 / 16 % 16))
      (digitChar (n / 16 % 16)) (digitChar (n % 16)) = some n := by
    have hread (m : Nat) : hexDigit? (digitChar (m % 16)) = some (m % 16) :=
      hexDigit?_digitChar _ (Nat.mod_lt m (by decide))
    have hvalue : ofDigits 16 [n / 16 / 16 / 16 % 16, n / 16 / 16 % 16, n / 16 % 16, n % 16] = n := by
      simp only [ofDigits, List.foldl_cons, List.foldl_nil]
      omega
    simp [unit?, List.mapM_cons, hread, hvalue]
  unfold escapeUnit
  rw [hdigits]
  simp only [List.cons_append, List.nil_append]
  rw [readString, hunit]
  cases readString rest <;> rfl

/-- A character as a reader finds it in a written text: the control characters that have no letter
of their own are found as numbers. -/
def unitOf (c : Char) : Nat ⊕ Char :=
  if c.toNat < 0x20 ∧ c.toNat ∉ [8, 9, 10, 12, 13] then .inl c.toNat else .inr c

/-- A character is written with a letter that stands for it, with its number, or as it is. -/
theorem escape_cases (c : Char) :
    (∃ mark, mark ≠ 'u' ∧ 0x20 ≤ mark.toNat ∧ escape false c = ['\\', mark] ∧
      shortEscape? mark = some c ∧ unitOf c = .inr c) ∨
    (c.toNat < 0x20 ∧ escape false c = escapeUnit c.toNat ∧ unitOf c = .inl c.toNat) ∨
    (c ≠ '"' ∧ c ≠ '\\' ∧ 0x20 ≤ c.toNat ∧ escape false c = [c] ∧ unitOf c = .inr c) := by
  by_cases hletter : c = '"' ∨ c = '\\' ∨ c = '\n' ∨ c = '\r' ∨ c = '\t'
  · left
    rcases hletter with rfl | rfl | rfl | rfl | rfl
    · exact ⟨'"', by decide, by decide, rfl, rfl, rfl⟩
    · exact ⟨'\\', by decide, by decide, rfl, rfl, rfl⟩
    · exact ⟨'n', by decide, by decide, rfl, rfl, rfl⟩
    · exact ⟨'r', by decide, by decide, rfl, rfl, rfl⟩
    · exact ⟨'t', by decide, by decide, rfl, rfl, rfl⟩
  by_cases hback : c.toNat = 8
  · obtain rfl : c = Char.ofNat 8 := by rw [← hback, Char.ofNat_toNat]
    exact Or.inl ⟨'b', by decide, by decide, rfl, rfl, rfl⟩
  by_cases hform : c.toNat = 12
  · obtain rfl : c = Char.ofNat 12 := by rw [← hform, Char.ofNat_toNat]
    exact Or.inl ⟨'f', by decide, by decide, rfl, rfl, rfl⟩
  obtain ⟨hquote, hslash, hfeed, hreturn, htab⟩ : c ≠ '"' ∧ c ≠ '\\' ∧ c ≠ '\n' ∧ c ≠ '\r' ∧
      c ≠ '\t' := by simpa using hletter
  right
  by_cases hlow : c.toNat < 0x20
  · left
    have hcode : escapeCode c.toNat = escapeUnit c.toNat := if_pos (by omega)
    have hnumber {d : Char} (hne : c ≠ d) : c.toNat ≠ d.toNat := fun h => hne (Char.toNat_inj.mp h)
    refine ⟨hlow, ?_, if_pos ⟨hlow, ?_⟩⟩
    · simp [escape, hquote, hslash, hfeed, hreturn, htab, hback, hform, hlow, hcode]
    · simpa using ⟨hback, hnumber htab, hnumber hfeed, hform, hnumber hreturn⟩
  · right
    refine ⟨hquote, hslash, Nat.le_of_not_lt hlow, ?_, if_neg fun h => hlow h.1⟩
    simp [escape, hquote, hslash, hfeed, hreturn, htab, hback, hform, hlow]

/-- A character is read as a unit of its own from the way in which it is written, whatever follows.
-/
theorem readString_escape (c : Char) (rest : List Char) :
    readString (escape false c ++ rest) = (readString rest).map fun p => (unitOf c :: p.1, p.2) := by
  rcases escape_cases c with ⟨mark, hmark, -, hwritten, hread, hunit⟩ | ⟨hlow, hwritten, hunit⟩ |
    ⟨hquote, hslash, hlow, hwritten, hunit⟩
  · rw [hwritten, hunit]
    simp only [List.cons_append, List.nil_append]
    rw [readString.eq_4 mark rest fun _ _ _ _ _ hu _ => hmark hu, hread]
    cases readString rest <;> rfl
  · rw [hwritten, hunit]
    exact readString_escapeUnit (by omega) rest
  · rw [hwritten, hunit]
    simp only [List.cons_append, List.nil_append]
    rw [readString.eq_5 c rest hquote (fun _ _ _ _ _ h _ => hslash h) fun _ _ h _ => hslash h]
    exact if_neg (not_or.mpr ⟨hslash, Nat.not_lt.mpr hlow⟩)

/-- No control character is written. -/
theorem le_toNat_of_mem_escape {c d : Char} (h : d ∈ escape false c) : 0x20 ≤ d.toNat := by
  rcases escape_cases c with ⟨mark, -, hmark, hwritten, -⟩ | ⟨hlow, hwritten, -⟩ |
    ⟨-, -, hlow, hwritten, -⟩
  · rw [hwritten] at h
    simp only [List.mem_cons, List.not_mem_nil, or_false] at h
    rcases h with rfl | rfl
    · decide
    · exact hmark
  · have hdigit : ∀ n < 16, 0x20 ≤ (digitChar n).toNat := by decide
    rw [hwritten] at h
    rw [escapeUnit, List.mem_cons, List.mem_cons] at h
    rcases h with rfl | rfl | h
    · decide
    · decide
    · obtain ⟨n, hn, rfl⟩ := exists_of_mem_hexDigits h
      exact hdigit n hn
  · rw [hwritten, List.mem_singleton] at h
    rwa [h]

/-! ## Texts -/

/-- A text is read up to its closing mark, and what follows is left. -/
theorem readString_flatMap_escape (cs rest : List Char) :
    readString (cs.flatMap (escape false) ++ '"' :: rest) = some (cs.map unitOf, rest) := by
  induction cs with
  | nil => rfl
  | cons c cs ih =>
      rw [List.flatMap_cons, List.append_assoc, readString_escape, ih]
      rfl

/-- A number that is no half of a character is joined with nothing. -/
theorem joinUnits_cons_inl {n : Nat} (h : n < 0xd800) (units : List (Nat ⊕ Char)) :
    joinUnits (.inl n :: units) = Char.ofNat n :: joinUnits units := by
  have hsingle : joinUnits.single n = Char.ofNat n := if_neg (by omega)
  cases units with
  | nil => simp only [joinUnits, hsingle]
  | cons unit units =>
      cases unit with
      | inl low =>
          rw [joinUnits, if_neg (by omega), hsingle]
      | inr c => simp only [joinUnits, hsingle]

/-- The units of a text are joined to the text. -/
theorem joinUnits_map_unitOf (cs : List Char) : joinUnits (cs.map unitOf) = cs := by
  induction cs with
  | nil => rfl
  | cons c cs ih =>
      rw [List.map_cons]
      by_cases h : c.toNat < 0x20 ∧ c.toNat ∉ [8, 9, 10, 12, 13]
      · have hlow : c.toNat < 0xd800 := by omega
        rw [unitOf, if_pos h, joinUnits_cons_inl hlow, Char.ofNat_toNat, ih]
      · rw [unitOf, if_neg h, joinUnits, ih]

/-- A written text is one token. -/
theorem tokens?_quote (cs rest : List Char) :
    tokens? (quote false cs ++ rest) = (tokens? rest).map (.text cs :: ·) := by
  have hquote : quote false cs ++ rest = '"' :: (cs.flatMap (escape false) ++ '"' :: rest) := by
    simp [quote]
  have hread := readString_flatMap_escape cs rest
  rw [hquote, tokens?]
  simp only [Char.reduceEq, or_self, if_false, if_true]
  split
  · rename_i h
    rw [hread] at h
    cases h
  · rename_i units tail h
    rw [hread] at h
    cases h
    rw [joinUnits_map_unitOf]

/-- No control character stands in a written text. -/
theorem le_toNat_of_mem_quote {cs : List Char} {d : Char} (h : d ∈ quote false cs) :
    0x20 ≤ d.toNat := by
  simp only [quote, List.cons_append, List.mem_cons, List.mem_append, List.mem_flatMap,
    List.not_mem_nil, or_false] at h
  rcases h with rfl | ⟨c, -, hd⟩ | rfl
  · decide
  · exact le_toNat_of_mem_escape hd
  · decide

/-! ## Marks -/

/-- An opening brace is a token. -/
theorem tokens?_openObject (rest : List Char) :
    tokens? ('\x7b' :: rest) = (tokens? rest).map (.openObject :: ·) := by
  rw [tokens?]
  rfl

/-- A closing brace is a token. -/
theorem tokens?_closeObject (rest : List Char) :
    tokens? ('\x7d' :: rest) = (tokens? rest).map (.closeObject :: ·) := by
  rw [tokens?]
  rfl

/-- A comma is a token. -/
theorem tokens?_comma (rest : List Char) :
    tokens? (',' :: rest) = (tokens? rest).map (.comma :: ·) := by
  rw [tokens?]
  rfl

/-- A colon is a token. -/
theorem tokens?_colon (rest : List Char) :
    tokens? (':' :: rest) = (tokens? rest).map (.colon :: ·) := by
  rw [tokens?]
  rfl

/-! ## Values -/

/-- Tokens spell a value. -/
structure Spelling (tokens : List Token) (v : Json) : Prop where
  /-- The value is written as a text that is cut into these tokens, whatever follows. -/
  cut : ∀ rest, tokens? (v.write .compact ++ rest) = (tokens? rest).map (tokens ++ ·)
  /-- A machine that is ready for a value takes the tokens for this one, whatever it is in. -/
  run : ∀ stack, tokens.foldlM Machine.step ⟨stack, .value⟩ = some ⟨stack, .after v⟩
  /-- No control character is written. -/
  legible : ∀ c ∈ v.write .compact, 0x20 ≤ c.toNat

/-- What is spelled is read. -/
theorem Spelling.read?_write {tokens : List Token} {v : Json} (h : Spelling tokens v) :
    read? (v.write .compact) = some v := by
  have hnil : tokens? [] = some [] := by rw [tokens?]
  have hcut := h.cut []
  rw [List.append_nil, hnil, Option.map_some, List.append_nil] at hcut
  unfold read?
  rw [hcut]
  show (tokens.foldlM Machine.step ⟨[], .value⟩ >>= _) = _
  rw [h.run []]
  rfl

/-- A text is spelled by one token. -/
theorem spelling_text (cs : List Char) : Spelling [.text cs] (.text cs) where
  cut rest := by
    rw [write]
    exact tokens?_quote cs rest
  run _ := rfl
  legible c hc := by
    rw [write] at hc
    exact le_toNat_of_mem_quote hc

/-! ## Objects -/

/-- The last member of an object is written as its name, a colon and its value. -/
theorem writeMembers_singleton (name : List Char) (v : Json) :
    writeMembers .compact [(name, v)] = quote false name ++ ':' :: v.write .compact := by
  rw [writeMembers]
  simp [Layout.compact]

/-- Behind an earlier member there is a comma. -/
theorem writeMembers_cons (name : List Char) (v : Json) {members : List (List Char × Json)}
    (h : members ≠ []) :
    writeMembers .compact ((name, v) :: members) =
      quote false name ++ ':' :: (v.write .compact ++ ',' :: writeMembers .compact members) := by
  rw [writeMembers]
  · simp [Layout.compact]
  · exact h

/-- Tokens spell the members of an object, up to its end. -/
structure MemberSpelling (tokens : List Token) (members : List (List Char × Json)) : Prop where
  cut : ∀ rest, tokens? (writeMembers .compact members ++ '\x7d' :: rest) =
    (tokens? rest).map (tokens ++ ·)
  /-- The members come behind those that were read before. -/
  run : ∀ stack earlier, tokens.foldlM Machine.step ⟨stack, .name earlier⟩ =
    some ⟨stack, .after (.object (earlier.reverse ++ members))⟩
  /-- Where an object begins, a first name is as good as a later one. -/
  run_first : ∀ stack, tokens.foldlM Machine.step ⟨stack, .firstName⟩ =
    some ⟨stack, .after (.object members)⟩
  legible : ∀ c ∈ writeMembers .compact members, 0x20 ≤ c.toNat

/-- The last member of an object is spelled by its name and its value. -/
theorem Spelling.memberSpelling_singleton {tokens : List Token} {v : Json} (h : Spelling tokens v)
    (name : List Char) :
    MemberSpelling (.text name :: .colon :: (tokens ++ [Token.closeObject])) [(name, v)] := by
  have hrun (stack : List Frame) (earlier : List (List Char × Json)) :
      (tokens ++ [Token.closeObject]).foldlM Machine.step ⟨.object earlier name :: stack, .value⟩ =
        some ⟨stack, .after (.object (earlier.reverse ++ [(name, v)]))⟩ := by
    rw [List.foldlM_append, h.run, ← List.reverse_cons]
    rfl
  constructor
  case cut =>
    intro rest
    rw [writeMembers_singleton, List.append_assoc, tokens?_quote, List.cons_append, tokens?_colon,
      h.cut, tokens?_closeObject]
    cases tokens? rest <;> simp
  case run => exact hrun
  case run_first => exact fun stack => hrun stack []
  case legible =>
    intro c hc
    rw [writeMembers_singleton, List.mem_append, List.mem_cons] at hc
    rcases hc with hc | rfl | hc
    · exact le_toNat_of_mem_quote hc
    · decide
    · exact h.legible c hc

/-- An earlier member is spelled by its name, its value and a comma. -/
theorem Spelling.memberSpelling_cons {tokens others : List Token} {v : Json}
    (h : Spelling tokens v) {members : List (List Char × Json)} (hne : members ≠ [])
    (hothers : MemberSpelling others members) (name : List Char) :
    MemberSpelling (.text name :: .colon :: (tokens ++ Token.comma :: others))
      ((name, v) :: members) := by
  have hrun (stack : List Frame) (earlier : List (List Char × Json)) :
      (tokens ++ Token.comma :: others).foldlM Machine.step
          ⟨.object earlier name :: stack, .value⟩ =
        some ⟨stack, .after (.object (earlier.reverse ++ (name, v) :: members))⟩ := by
    rw [List.foldlM_append, h.run]
    show others.foldlM Machine.step ⟨stack, .name ((name, v) :: earlier)⟩ = _
    rw [hothers.run, List.reverse_cons, List.append_assoc]
    rfl
  constructor
  case cut =>
    intro rest
    rw [writeMembers_cons name v hne, List.append_assoc, tokens?_quote, List.cons_append,
      tokens?_colon, List.append_assoc, h.cut, List.cons_append, tokens?_comma, hothers.cut]
    cases tokens? rest <;> simp
  case run => exact hrun
  case run_first => exact fun stack => hrun stack []
  case legible =>
    intro c hc
    rw [writeMembers_cons name v hne, List.mem_append, List.mem_cons, List.mem_append,
      List.mem_cons] at hc
    rcases hc with hc | rfl | hc | rfl | hc
    · exact le_toNat_of_mem_quote hc
    · decide
    · exact h.legible c hc
    · decide
    · exact hothers.legible c hc

/-- The members of an object can be spelled if their values can. -/
theorem exists_memberSpelling {members : List (List Char × Json)} (hne : members ≠ [])
    (h : ∀ member ∈ members, ∃ tokens, Spelling tokens member.2) :
    ∃ tokens, MemberSpelling tokens members := by
  induction members with
  | nil => exact absurd rfl hne
  | cons member members ih =>
      obtain ⟨name, v⟩ := member
      obtain ⟨tokens, hv⟩ := h (name, v) List.mem_cons_self
      by_cases hmembers : members = []
      · subst hmembers
        exact ⟨_, hv.memberSpelling_singleton name⟩
      · obtain ⟨others, hothers⟩ := ih hmembers fun m hm => h m (List.mem_cons_of_mem _ hm)
        exact ⟨_, hv.memberSpelling_cons hmembers hothers name⟩

/-- An object with members can be spelled if their values can. -/
theorem exists_spelling_object {members : List (List Char × Json)} (hne : members ≠ [])
    (h : ∀ member ∈ members, ∃ tokens, Spelling tokens member.2) :
    ∃ tokens, Spelling tokens (.object members) := by
  obtain ⟨tokens, hmembers⟩ := exists_memberSpelling hne h
  refine ⟨.openObject :: tokens, ?_, hmembers.run_first, ?_⟩
  · intro rest
    rw [Json.write, List.cons_append, List.cons_append, List.append_assoc, List.singleton_append,
      tokens?_openObject, hmembers.cut]
    cases tokens? rest <;> rfl
  · intro c hc
    rw [Json.write, List.cons_append, List.mem_cons, List.mem_append, List.mem_singleton] at hc
    rcases hc with rfl | hc | rfl
    · decide
    · exact hmembers.legible c hc
    · decide

end Tocsin.Json
