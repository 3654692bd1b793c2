import RoutineTiming.Proofs.Json.Numbers
import RoutineTiming.Proofs.Json.Strings

/-!
# Documents read back

The indented text of a value reads back as the value, except that the numbers that JSON does not
have come back as `null`. So two values with the same text are equal up to these numbers.

## Main definitions

* `Json.asWritten` : the value with `null` in place of the numbers that are not finite.
* `Json.itemsText` : the text of the elements of an array or the members of an object.

## Main results

* `Json.induction` : induction on values.
* `Json.readItems_itemsText` : elements and members are read one by one.
* `Json.readValue_text` : a value at the front of a text.
* `Json.read?_pretty` : a document reads back.
-/

namespace RoutineTiming.Json

/-! ### Values -/

/-- Induction on values: an array or an object has the property if all that it holds does. -/
theorem induction {motive : Json → Prop} (null : motive .null) (bool : ∀ b, motive (.bool b))
    (natural : ∀ n, motive (.natural n)) (number : ∀ x, motive (.number x))
    (string : ∀ s, motive (.string s))
    (array : ∀ elements, (∀ v ∈ elements, motive v) → motive (.array elements))
    (object : ∀ members : List (String × Json), (∀ m ∈ members, motive m.2) →
      motive (.object members)) (v : Json) : motive v := by
  refine @Json.rec motive (fun elements => ∀ v ∈ elements, motive v)
    (fun members => ∀ m ∈ members, motive m.2) (fun m => motive m.2)
    null bool natural number string array object ?_ ?_ ?_ ?_ ?_ v
  · exact List.forall_mem_nil _
  · exact fun v elements hv helements => List.forall_mem_cons.mpr ⟨hv, helements⟩
  · exact List.forall_mem_nil _
  · exact fun m members hm hmembers => List.forall_mem_cons.mpr ⟨hm, hmembers⟩
  · exact fun name v hv => hv

mutual

/-- The value with `null` in place of the numbers that are not finite. -/
def asWritten : Json → Json
  | .number x => if x.isFinite then .number x else .null
  | .array elements => .array (asWrittenElements elements)
  | .object members => .object (asWrittenMembers members)
  | .null => .null
  | .bool b => .bool b
  | .natural n => .natural n
  | .string s => .string s

/-- The elements of an array as they are written. -/
def asWrittenElements : List Json → List Json
  | [] => []
  | v :: rest => asWritten v :: asWrittenElements rest

/-- The members of an object as they are written. -/
def asWrittenMembers : List (String × Json) → List (String × Json)
  | [] => []
  | (name, v) :: rest => (name, asWritten v) :: asWrittenMembers rest

end

theorem asWrittenElements_eq_map (elements : List Json) :
    asWrittenElements elements = elements.map asWritten := by
  induction elements with
  | nil => rw [asWrittenElements, List.map_nil]
  | cons v rest ih => rw [asWrittenElements, ih, List.map_cons]

theorem asWrittenMembers_eq_map (members : List (String × Json)) :
    asWrittenMembers members = members.map fun m => (m.1, asWritten m.2) := by
  induction members with
  | nil => rw [asWrittenMembers, List.map_nil]
  | cons m rest ih => rw [asWrittenMembers, ih, List.map_cons]

/-! ### Items -/

/-- Items on lines of their own with commas between them, and the bracket that closes them. -/
def itemsText {β : Type} (level : Nat) (close : Char) (write : β → List Char) (first : β)
    (others : List β) : List Char :=
  newLine (level + 1) ++ (write first ++
    (others.flatMap (fun b => ',' :: (newLine (level + 1) ++ write b)) ++
      (newLine level ++ [close])))

/-- The text of a member of an object. -/
def memberText (level : Nat) (m : String × Json) : List Char :=
  stringText m.1 ++ ':' :: ' ' :: text level m.2

theorem text_array (level : Nat) (first : Json) (others : List Json) :
    text level (.array (first :: others)) =
      '[' :: itemsText level ']' (text (level + 1)) first others := by
  have hothers (others : List Json) : elementsText (level + 1) others =
      others.flatMap fun v => ',' :: (newLine (level + 1) ++ text (level + 1) v) := by
    induction others with
    | nil => rw [elementsText, List.flatMap_nil]
    | cons v others ih =>
      rw [elementsText, ih, List.flatMap_cons]
      rfl
  rw [text, hothers, itemsText]
  simp only [List.append_assoc, List.cons_append]

theorem text_object (level : Nat) (first : String × Json) (others : List (String × Json)) :
    text level (.object (first :: others)) =
      '\x7b' :: itemsText level '\x7d' (memberText (level + 1)) first others := by
  have hothers (others : List (String × Json)) : membersText (level + 1) others =
      others.flatMap fun m => ',' :: (newLine (level + 1) ++ memberText (level + 1) m) := by
    induction others with
    | nil => rw [membersText, List.flatMap_nil]
    | cons m others ih =>
      rw [membersText, ih, List.flatMap_cons, memberText]
      simp only [List.append_assoc, List.cons_append, List.nil_append]
  rw [text, hothers, itemsText, memberText]
  simp only [List.append_assoc, List.cons_append, List.nil_append]

theorem skipSpace_of_not {c : Char} (h : isSpace c = false) (rest : List Char) :
    skipSpace (c :: rest) = c :: rest :=
  List.dropWhile_cons_of_neg (by simp [h])

theorem skipSpace_newLine (level : Nat) (rest : List Char) :
    skipSpace (newLine level ++ rest) = skipSpace rest := by
  refine List.dropWhile_append_of_pos fun c hc => ?_
  rcases List.mem_cons.mp hc with rfl | hc
  · rfl
  · rw [List.eq_of_mem_replicate hc]
    rfl

theorem ends_newLine (level : Nat) (rest : List Char) : Ends (newLine level ++ rest) :=
  fun c hc => Option.some.inj hc ▸ by decide

/-- The text begins neither with a blank nor with the bracket that closes the items. -/
def Starts (close : Char) (text : List Char) : Prop :=
  ∃ c rest, text = c :: rest ∧ isSpace c = false ∧ c ≠ close

section Items

variable {α β : Type} {item : Reader α} {write : β → List Char} {value : β → α} {close : Char}
  {level : Nat} {first : β} {others : List β}

theorem length_write_lt {b : β} (h : b ∈ first :: others) :
    (write b).length < (itemsText level close write first others).length := by
  have hle : ∀ b ∈ others, (write b).length ≤
      (others.flatMap fun b => ',' :: (newLine (level + 1) ++ write b)).length := by
    intro b hb
    have hsublist := List.sublist_flatten_of_mem
      (List.mem_map_of_mem (f := fun b => ',' :: (newLine (level + 1) ++ write b)) hb)
    refine Nat.le_trans ?_ hsublist.length_le
    simp only [List.length_cons, List.length_append]
    omega
  simp only [itemsText, List.length_append, List.length_singleton]
  rcases List.mem_cons.mp h with rfl | h
  · omega
  · have := hle b h
    omega

/-- Items that are read one by one are read from the text of all of them. -/
theorem readItems_itemsText (hclose : isSpace close = false) (hcomma : close ≠ ',')
    (hread : ∀ b ∈ first :: others, ∀ text, Ends text →
      item (write b ++ text) = some (value b, text))
    (hstarts : ∀ b ∈ first :: others, Starts close (write b)) (rest : List Char) :
    readItems close item (itemsText level close write first others ++ rest) =
      some ((first :: others).map value, rest) := by
  have hskip : ∀ b ∈ first :: others, ∀ text,
      skipSpace (newLine (level + 1) ++ (write b ++ text)) = write b ++ text := by
    intro b hb text
    obtain ⟨c, tail, hcons, hc, -⟩ := hstarts b hb
    rw [skipSpace_newLine, hcons, List.cons_append, skipSpace_of_not hc]
  have hend : skipSpace (newLine level ++ close :: rest) = close :: rest := by
    rw [skipSpace_newLine, skipSpace_of_not hclose]
  have hmany : many (readNext item)
      (others.flatMap (fun b => ',' :: (newLine (level + 1) ++ write b)) ++
        (newLine level ++ close :: rest)) = (others.map value, newLine level ++ close :: rest) := by
    refine many_flatMap _ value Ends (fun b _ text => ?_) (fun b hb text htext => ?_)
      (fun b _ => List.cons_ne_nil _ _) (ends_newLine _ _) ?_
    · exact fun c hc => Option.some.inj hc ▸ by decide
    · have hb := List.mem_cons_of_mem first hb
      rw [readNext, List.cons_append, skipSpace_of_not rfl, List.append_assoc]
      change item (skipSpace (newLine (level + 1) ++ (write b ++ text))) = _
      rw [hskip b hb, hread b hb text htext]
    · rw [readNext, hend, expect, if_neg hcomma.symm]
      rfl
  have hfirst : Ends (others.flatMap (fun b => ',' :: (newLine (level + 1) ++ write b)) ++
      (newLine level ++ close :: rest)) := by
    cases others with
    | nil => exact ends_newLine _ _
    | cons b others => exact fun c hc => Option.some.inj hc ▸ by decide
  obtain ⟨c, tail, hcons, -, hc⟩ := hstarts first List.mem_cons_self
  have hopen (text : List Char) : expect [close] (write first ++ text) = none := by
    rw [hcons, List.cons_append, expect, if_neg hc.symm]
  have hexpect : expect [close] (close :: rest) = some rest := by
    rw [expect, if_pos rfl]
    rfl
  rw [itemsText, readItems]
  simp only [List.append_assoc, List.singleton_append, hskip first List.mem_cons_self, hopen,
    Option.bind_eq_bind, hread first List.mem_cons_self _ hfirst, Option.bind_some, hmany, hend,
    hexpect]
  rfl

end Items

/-! ### Documents -/

/-- The text of a value begins neither with a blank nor with the end of an array. -/
theorem starts_text (level : Nat) (v : Json) : Starts ']' (text level v) := by
  have hdigit {c : Char} (h : c.isDigit = true) : isSpace c = false ∧ c ≠ ']' := by
    constructor
    · by_contra hspace
      simp only [isSpace, Bool.or_eq_true, decide_eq_true_eq, Bool.not_eq_false] at hspace
      rcases hspace with ((rfl | rfl) | rfl) | rfl <;> cases h
    · rintro rfl
      cases h
  have hconst {c : Char} {rest : List Char} (h : isSpace c = false ∧ c ≠ ']') :
      Starts ']' (c :: rest) := ⟨c, rest, rfl, h⟩
  cases v with
  | null => exact hconst (by decide)
  | bool b => cases b <;> exact hconst (by decide)
  | natural n =>
    obtain ⟨lead, rest, hcons, hlead⟩ := (isWhole_digitsOf n).exists_cons
    exact ⟨lead, rest, by rw [text, hcons], hdigit hlead⟩
  | number x =>
    rw [text]
    cases x with
    | nan => exact hconst (by decide)
    | infinite negative => exact hconst (by decide)
    | finite negative quanta h =>
      obtain ⟨lead, rest, hcons, hlead⟩ := exists_numberText_eq_cons negative h
      rw [hcons]
      rcases hlead with rfl | hlead
      · exact hconst (by decide)
      · exact hconst (hdigit hlead)
  | string s => exact hconst (by decide)
  | array elements => cases elements <;> exact hconst (by decide)
  | object members => cases members <;> exact hconst (by decide)

theorem starts_memberText (level : Nat) (m : String × Json) :
    Starts '\x7d' (memberText level m) :=
  ⟨'"', _, rfl, by decide⟩

theorem length_text_le (level : Nat) (m : String × Json) :
    (text level m.2).length ≤ (memberText level m).length := by
  simp only [memberText, List.length_append, List.length_cons]
  omega

theorem readMember_memberText {value : Reader Json} {level : Nat} {m : String × Json}
    {rest : List Char} {v : Json} (h : value (text level m.2 ++ rest) = some (v, rest)) :
    readMember value (memberText level m ++ rest) = some ((m.1, v), rest) := by
  obtain ⟨c, tail, hcons, hc, -⟩ := starts_text level m.2
  have hskip : skipSpace (' ' :: (text level m.2 ++ rest)) = text level m.2 ++ rest := by
    rw [hcons]
    exact skipSpace_of_not hc _
  rw [memberText, List.append_assoc, readMember, readString_stringText]
  simp only [Option.bind_eq_bind, Option.bind_some, List.cons_append,
    skipSpace_of_not (show isSpace ':' = false from rfl)]
  change (value (skipSpace (' ' :: (text level m.2 ++ rest)))).bind _ = _
  rw [hskip, h]
  rfl

/-- A text that begins with a digit or a minus sign is read as a number. -/
theorem readValue_of_number {c : Char} (h : c = '-' ∨ c.isDigit = true) (depth : Nat)
    (rest : List Char) : readValue (depth + 1) (c :: rest) = readNumber (c :: rest) := by
  rw [readValue]
  all_goals
    intro rest' heq
    cases heq
    revert h
    decide

theorem readValue_natural (n level depth : Nat) {rest : List Char} (hrest : Ends rest) :
    readValue (depth + 1) (text level (.natural n) ++ rest) = some (.natural n, rest) := by
  obtain ⟨lead, tail, hcons, hlead⟩ := (isWhole_digitsOf n).exists_cons
  have hread := readNumber_digitsOf n hrest
  rw [text]
  rw [hcons, List.cons_append] at hread ⊢
  rw [readValue_of_number (.inr hlead), hread]

theorem readValue_finite (negative : Bool) {quanta : Nat}
    (h : Binary64.Representable quanta) (level depth : Nat)
    {rest : List Char} (hrest : Ends rest) :
    readValue (depth + 1) (text level (.number (.finite negative quanta h)) ++ rest) =
      some (.number (.finite negative quanta h), rest) := by
  obtain ⟨lead, tail, hcons, hlead⟩ := exists_numberText_eq_cons negative h
  have hread := readNumber_numberText negative h hrest
  rw [text]
  rw [hcons, List.cons_append] at hread ⊢
  rw [readValue_of_number hlead, hread]

/-- The text of a value reads back, whatever follows it, unless a number could go on there. -/
theorem readValue_text (v : Json) (level depth : Nat) (hdepth : (text level v).length ≤ depth + 1)
    {rest : List Char} (hrest : Ends rest) :
    readValue (depth + 1) (text level v ++ rest) = some (v.asWritten, rest) := by
  induction v using induction generalizing level depth rest with
  | null => rfl
  | bool b => cases b <;> rfl
  | string s =>
    rw [text, asWritten]
    change (readString (stringText s ++ rest)).map _ = _
    rw [readString_stringText]
    rfl
  | natural n =>
    rw [asWritten, readValue_natural n level depth hrest]
  | number x =>
    cases x with
    | nan => rfl
    | infinite negative => rfl
    | finite negative quanta h =>
      rw [readValue_finite negative h level depth hrest, asWritten]
      rfl
  | array elements ih =>
    cases elements with
    | nil => rfl
    | cons first others =>
      rw [text_array, List.length_cons] at hdepth
      have hshorter {v : Json} (hv : v ∈ first :: others) : (text (level + 1) v).length < depth :=
        Nat.lt_of_lt_of_le (length_write_lt hv) (Nat.le_of_succ_le_succ hdepth)
      obtain ⟨depth, rfl⟩ : ∃ d, depth = d + 1 :=
        Nat.exists_eq_succ_of_ne_zero (Nat.ne_zero_of_lt (hshorter List.mem_cons_self))
      rw [text_array, List.cons_append, asWritten, asWrittenElements_eq_map, readValue,
        readItems_itemsText rfl (by decide)
          (fun v hv text htext => ih v hv (level + 1) depth (Nat.le_of_lt (hshorter hv)) htext)
          fun v _ => starts_text (level + 1) v]
      rfl
  | object members ih =>
    cases members with
    | nil => rfl
    | cons first others =>
      rw [text_object, List.length_cons] at hdepth
      have hshorter {m : String × Json} (hm : m ∈ first :: others) :
          (text (level + 1) m.2).length < depth := by
        have hmember : (memberText (level + 1) m).length <
            (itemsText level '\x7d' (memberText (level + 1)) first others).length :=
          length_write_lt hm
        have hvalue := length_text_le (level + 1) m
        omega
      obtain ⟨depth, rfl⟩ : ∃ d, depth = d + 1 :=
        Nat.exists_eq_succ_of_ne_zero (Nat.ne_zero_of_lt (hshorter List.mem_cons_self))
      rw [text_object, List.cons_append, asWritten, asWrittenMembers_eq_map, readValue,
        readItems_itemsText rfl (by decide)
          (fun m hm text htext => readMember_memberText
            (ih m hm (level + 1) depth (Nat.le_of_lt (hshorter hm)) htext))
          fun m _ => starts_memberText (level + 1) m]
      rfl

/-- **A document reads back.** The text of a value denotes the value, with `null` in place of the
numbers that are not finite. -/
theorem read?_pretty (document : Json) : read? document.pretty = some document.asWritten := by
  have hread : readValue ((text 0 document).length + 1) (text 0 document ++ []) =
      some (document.asWritten, []) :=
    readValue_text document 0 _ (Nat.le_succ _) fun c hc => by cases hc
  obtain ⟨c, tail, hcons, hc, -⟩ := starts_text 0 document
  have hskip : skipSpace (text 0 document) = text 0 document := by
    rw [hcons, skipSpace_of_not hc]
  rw [List.append_nil] at hread
  rw [read?, pretty, String.toList_ofList]
  simp only [hskip, hread, Option.bind_some]
  exact if_pos rfl

/-- Values with one text are equal up to the numbers that are not finite. -/
theorem asWritten_eq_of_pretty_eq {v w : Json} (h : v.pretty = w.pretty) :
    v.asWritten = w.asWritten := by
  have hread := read?_pretty v
  rw [h, read?_pretty] at hread
  exact (Option.some.inj hread).symm

end RoutineTiming.Json
