import RoutineTiming.Proofs.Json.Reading

/-!
# Strings read back

The text of a string reads back as the string, whatever characters it holds: what is escaped is read
as the character that was escaped, and every other character stands for itself.

## Main results

* `many_flatMap` : texts in sequence are read one by one.
* `Json.takeChar_stringChar` : one character of a string.
* `Json.readString_stringText` : strings.
-/

namespace RoutineTiming

/-! ### Repeated readers -/

section Many

variable {α β : Type} {reader : Reader α}

/-- Texts in sequence are read one by one, up to what cannot be read. -/
theorem many_flatMap (write : β → List Char) (value : β → α) (Follows : List Char → Prop)
    {bs : List β} {rest : List Char} (hwrite : ∀ b ∈ bs, ∀ text, Follows (write b ++ text))
    (hread : ∀ b ∈ bs, ∀ text, Follows text → reader (write b ++ text) = some (value b, text))
    (hne : ∀ b ∈ bs, write b ≠ []) (hrest : Follows rest) (hstops : reader rest = none) :
    many reader (bs.flatMap write ++ rest) = (bs.map value, rest) := by
  induction bs with
  | nil => exact many_of_none hstops
  | cons b bs ih =>
    obtain ⟨hwrite, hwrites⟩ := List.forall_mem_cons.mp hwrite
    obtain ⟨hread, hreads⟩ := List.forall_mem_cons.mp hread
    obtain ⟨hne, hnes⟩ := List.forall_mem_cons.mp hne
    have hfollows : Follows (bs.flatMap write ++ rest) := by
      cases bs with
      | nil => exact hrest
      | cons b' bs =>
        rw [List.flatMap_cons, List.append_assoc]
        exact (List.forall_mem_cons.mp hwrites).1 _
    have hlength := List.length_pos_iff.mpr hne
    have hshorter :
        (bs.flatMap write ++ rest).length < (write b ++ (bs.flatMap write ++ rest)).length := by
      simp only [List.length_append]
      omega
    rw [List.flatMap_cons, List.append_assoc, many_of_some (hread _ hfollows) hshorter,
      ih hwrites hreads hnes, List.map_cons]

end Many

namespace Json

/-! ### Strings -/

/-- The escape of a control character by its code point. -/
theorem takeUnits_of_lt {c : Char} (h : c.toNat < 0x20) (rest : List Char) :
    takeUnits (['0', '0', Nat.digitChar (c.toNat / 16), Nat.digitChar (c.toNat % 16)] ++ rest) =
      some (c, rest) := by
  have hdigits : ∀ n < 0x20,
      ['0', '0', Nat.digitChar (n / 16), Nat.digitChar (n % 16)].all isHexDigit = true ∧
      radixValue 16 ['0', '0', Nat.digitChar (n / 16), Nat.digitChar (n % 16)] = n := by decide
  obtain ⟨hall, hvalue⟩ := hdigits c.toNat h
  have hunit : Toml.takeDigits 16 isHexDigit 4
      (['0', '0', Nat.digitChar (c.toNat / 16), Nat.digitChar (c.toNat % 16)] ++ rest) =
        some (c.toNat, rest) := by
    rw [Toml.takeDigits]
    change (if _ ∧ _ then some (radixValue 16 ['0', '0', Nat.digitChar (c.toNat / 16),
      Nat.digitChar (c.toNat % 16)], rest) else none) = _
    rw [hvalue]
    exact if_pos ⟨rfl, hall⟩
  rw [takeUnits, hunit]
  change (if 0xD800 ≤ c.toNat ∧ c.toNat < 0xDC00 then _ else _) = _
  rw [if_neg (by omega), if_pos (Or.inl (by omega)), Char.ofNat_toNat]

theorem takeChar_stringChar (c : Char) (rest : List Char) :
    takeChar (stringChar c ++ rest) = some (c, rest) := by
  unfold stringChar
  split
  case h_8 hquote hbackslash _ _ _ _ _ =>
    split
    · next h => exact takeUnits_of_lt h rest
    · next h =>
      rw [List.singleton_append, takeChar]
      · exact if_neg (not_or.mpr ⟨hquote, h⟩)
      · exact hbackslash
  all_goals rfl

theorem stringChar_ne_nil (c : Char) : stringChar c ≠ [] := by
  intro h
  have hread := takeChar_stringChar c []
  rw [h] at hread
  cases hread

/-- A string reads back, whatever characters it holds. -/
theorem readString_stringText (s : String) (rest : List Char) :
    readString (stringText s ++ rest) = some (s, rest) := by
  have hcharacters : many takeChar (s.toList.flatMap stringChar ++ '"' :: rest) =
      (s.toList, '"' :: rest) := by
    rw [many_flatMap stringChar id (fun _ => True) (fun _ _ _ => trivial)
      (fun c _ text _ => takeChar_stringChar c text) (fun c _ => stringChar_ne_nil c) trivial rfl,
      List.map_id]
  have hexpect (text : List Char) : expect ['"'] ('"' :: text) = some text := rfl
  rw [readString, stringText, List.append_assoc, List.cons_append, hexpect, List.singleton_append]
  simp only [Option.bind_eq_bind, Option.bind_some, hcharacters, hexpect]
  rw [String.ofList_toList]
  rfl

end Json

end RoutineTiming
