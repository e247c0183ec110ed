import VersionMatch.Proofs.Json.String

/-!
# Values can be read back

The text of a value is printable ASCII and has one reading by the grammar, the value itself. As the
value may stand inside of another one, this is said for any text that follows, `Legible`, and for
any white space before it. `denotes_render_iff` is the statement for a text on its own.
-/

namespace VersionMatch.Json

/-- Values are built from the bottom up: what holds of arrays and objects whose parts it holds of,
and of all other values, holds of every value. -/
@[elab_as_elim, induction_eliminator]
theorem induction {motive : Json → Prop} (null : motive .null)
    (bool : ∀ value, motive (.bool value)) (string : ∀ value, motive (.string value))
    (array : ∀ items, (∀ item ∈ items, motive item) → motive (.array items))
    (object : ∀ members, (∀ member ∈ members, motive member.2) → motive (.object members)) :
    ∀ json, motive json
  | .null => null
  | .bool value => bool value
  | .string value => string value
  | .array items => array items fun item hitem =>
      have := List.sizeOf_lt_of_mem hitem
      induction null bool string array object item
  | .object members => object members fun member hmember =>
      have := List.sizeOf_lt_of_mem hmember
      have : sizeOf member.2 < sizeOf member := by
        obtain ⟨key, value⟩ := member
        show sizeOf value < sizeOf (key, value)
        rw [Prod.mk.sizeOf_spec]
        omega
      induction null bool string array object member.2
termination_by json => sizeOf json

/-! ## Items and members in order -/

/-- A member of an object. -/
def renderMember (member : Text × Json) : Text :=
  renderString member.1 ++ ": ".toList ++ render member.2

theorem render_items_eq (items : List Json) :
    renderItems items = items.flatMap fun item => ", ".toList ++ render item := by
  induction items with
  | nil => rfl
  | cons item items ih => rw [renderItems, ih, List.flatMap_cons]

theorem render_members_eq (members : List (Text × Json)) :
    renderMembers members = members.flatMap fun member => ", ".toList ++ renderMember member := by
  induction members with
  | nil => rfl
  | cons member members ih =>
      rw [renderMembers, ih, List.flatMap_cons, renderMember]
      simp only [List.append_assoc]

theorem to_values_eq (items : List Json) : toValues items = items.map toValue := by
  induction items with
  | nil => rfl
  | cons item items ih => rw [toValues, ih, List.map_cons]

theorem to_members_eq (members : List (Text × Json)) :
    toMembers members = members.map fun member => (member.1, toValue member.2) := by
  induction members with
  | nil => rfl
  | cons member members ih => rw [toMembers, ih, List.map_cons]

/-! ## White space -/

/-- A text that does not begin with white space. -/
def Dense (text : Text) : Prop :=
  ∀ c ∈ text.head?, isSpace c = false

theorem dense_cons {c : Char} (text : Text) (h : isSpace c = false) : Dense (c :: text) := by
  intro d hd
  cases hd
  exact h

theorem is_space_blank : ∀ c ∈ [' '], isSpace c = true :=
  List.forall_mem_singleton.2 rfl

theorem spaces_append {lead : Text} (text : Text) (hlead : ∀ c ∈ lead, isSpace c = true) :
    Spaces (lead ++ text) text := by
  induction lead with
  | nil => exact .none text
  | cons c lead ih =>
      rw [List.forall_mem_cons] at hlead
      exact .more c _ text hlead.1 (ih hlead.2)

/-- In front of a text that does not begin with white space there is none to skip. -/
theorem Spaces.eq_of_dense {text rest : Text} (h : Spaces text rest) (htext : Dense text) :
    rest = text := by
  cases h with
  | none => rfl
  | more c _ _ hc _ => cases (htext c rfl).symm.trans hc

/-- White space ends at one place, if what follows does not begin with more of it. -/
theorem Spaces.unique {text rest other : Text} (h : Spaces text rest) (hother : Spaces text other)
    (hrest : Dense rest) (hdense : Dense other) : rest = other := by
  induction h with
  | none rest => exact (hother.eq_of_dense hrest).symm
  | more c text rest hc _ ih =>
      cases hother with
      | none => cases (hdense c rfl).symm.trans hc
      | more _ _ _ _ hother => exact ih hother hrest

/-! ## The beginning of a value -/

/-- A number begins with a minus sign or a digit. -/
theorem is_number_head {c : Char} {literal text rest : Text} (h : IsNumber literal)
    (htext : c :: text = literal ++ rest) : c = '-' ∨ c.isDigit = true := by
  obtain ⟨sign, whole, fraction, exponent, hsign, hwhole, -, -, rfl⟩ := h
  have hdigits : ∃ d digits, whole = d :: digits ∧ d.isDigit = true := by
    rcases hwhole with rfl | ⟨⟨hne, hdigits⟩, -⟩
    · exact ⟨'0', [], rfl, by decide⟩
    · obtain ⟨d, digits, rfl⟩ := List.exists_cons_of_ne_nil hne
      exact ⟨d, digits, rfl, hdigits d (by simp)⟩
  obtain ⟨d, digits, rfl, hd⟩ := hdigits
  simp only [List.mem_cons, List.not_mem_nil, or_false] at hsign
  rcases hsign with rfl | rfl
  · cases htext
    exact .inr hd
  · cases htext
    exact .inl rfl

/-- A value begins neither with white space nor with a bracket that closes an array. -/
theorem ReadsValue.head {c : Char} {text rest : Text} {value : Value}
    (h : ReadsValue (c :: text) value rest) : isSpace c = false ∧ c ≠ ']' := by
  cases h with
  | number _ _ _ hnumber htext =>
      have hc := is_number_head hnumber htext
      constructor
      · rw [Bool.eq_false_iff]
        intro hspace
        simp only [isSpace, Bool.or_eq_true, beq_iff_eq] at hspace
        rcases hspace with ((rfl | rfl) | rfl) | rfl <;> revert hc <;> decide
      · rintro rfl
        revert hc
        decide
  | array _ _ _ hitems => cases hitems <;> decide
  | object _ _ _ hmembers => cases hmembers <;> decide
  | wordNull | wordTrue | wordFalse | string => decide

theorem ReadsValue.dense {text rest : Text} {value : Value} (h : ReadsValue text value rest) :
    Dense text := by
  intro c hc
  obtain ⟨text, rfl⟩ : ∃ later, text = c :: later := List.head?_eq_some_iff.1 hc
  exact h.head.1

/-! ## Items -/

/-- `ReadsOnly Reads text value` says that the text, with white space before it and a text that does
not begin with white space behind it, has one reading. -/
def ReadsOnly {α : Type} (Reads : Text → α → Text → Prop) (text : Text) (value : α) : Prop :=
  ∀ lead tail, (∀ c ∈ lead, isSpace c = true) → Dense tail → ∀ other rest,
    Reads (lead ++ (text ++ tail)) other rest ↔ other = value ∧ rest = tail

section Items

variable {α β : Type} {opening closing : Char} {Reads : Text → α → Text → Prop}
variable {text : β → Text} {value : β → α}

/-- The texts of items behind the first one, each after a comma and a space. -/
def joinOthers (text : β → Text) (others : List β) : Text :=
  others.flatMap fun item => ", ".toList ++ text item

/-- The texts of items with a comma and a space between them. -/
def joinItems (text : β → Text) : List β → Text
  | [] => []
  | first :: others => text first ++ joinOthers text others

theorem join_others_cons (text : β → Text) (item : β) (others : List β) (tail : Text) :
    joinOthers text (item :: others) ++ tail =
      ',' :: ([' '] ++ (text item ++ (joinOthers text others ++ tail))) := by
  simp [joinOthers]

/-- One or more items with one reading each have one reading as a list. -/
theorem reads_list_iff (hclosing : isSpace closing = false) (hcomma : closing ≠ ',') {first : β}
    {others : List β} (hreads : ∀ item ∈ first :: others, ReadsOnly Reads (text item) (value item))
    {lead tail : Text} (hlead : ∀ c ∈ lead, isSpace c = true) {values : List α} {rest : Text} :
    ReadsList closing Reads (lead ++ (text first ++ (joinOthers text others ++ closing :: tail)))
        values rest ↔
      values = (first :: others).map value ∧ rest = tail := by
  -- A further item begins with the space behind the comma before it.
  induction others generalizing first lead values with
  | nil =>
      have hfirst := hreads first (by simp) lead (closing :: tail) hlead (dense_cons tail hclosing)
      constructor
      · intro hread
        cases hread with
        | last _ item _ hitem =>
            obtain ⟨rfl, hrest⟩ := (hfirst item _).1 hitem
            exact ⟨rfl, (List.cons.inj hrest).2⟩
        | more _ item later _ _ hitem _ =>
            obtain ⟨-, hrest⟩ := (hfirst item _).1 hitem
            exact absurd (List.cons.inj hrest).1.symm hcomma
      · rintro ⟨rfl, rfl⟩
        exact .last _ _ rest ((hfirst _ _).2 ⟨rfl, rfl⟩)
  | cons second others ih =>
      rw [List.forall_mem_cons] at hreads
      have hsecond := @ih second hreads.2 [' '] is_space_blank
      have hfirst := hreads.1 lead _ hlead (dense_cons ([' '] ++ (text second ++
        (joinOthers text others ++ closing :: tail))) (show isSpace ',' = false by decide))
      rw [join_others_cons]
      constructor
      · intro hread
        cases hread with
        | last _ item _ hitem =>
            obtain ⟨-, hrest⟩ := (hfirst item _).1 hitem
            exact absurd (List.cons.inj hrest).1 hcomma
        | more _ item later items _ hitem hitems =>
            obtain ⟨rfl, hrest⟩ := (hfirst item _).1 hitem
            obtain ⟨-, rfl⟩ := List.cons.inj hrest
            obtain ⟨rfl, rfl⟩ := hsecond.1 hitems
            exact ⟨rfl, rfl⟩
      · rintro ⟨rfl, rfl⟩
        exact .more _ _ _ _ rest ((hfirst _ _).2 ⟨rfl, rfl⟩) (hsecond.2 ⟨rfl, rfl⟩)

/-- Items with one reading each have one reading between brackets, if no item begins with the
closing bracket. -/
theorem reads_bracketed_iff (hclosing : isSpace closing = false) (hcomma : closing ≠ ',')
    (hopen : ∀ start after item rest, Spaces start (closing :: after) → ¬ Reads start item rest)
    {items : List β} (hreads : ∀ item ∈ items, ReadsOnly Reads (text item) (value item))
    {tail : Text} {values : List α} {rest : Text} :
    ReadsBracketed opening closing Reads (opening :: (joinItems text items ++ closing :: tail))
        values rest ↔
      values = items.map value ∧ rest = tail := by
  cases items with
  | nil =>
      constructor
      · intro hread
        cases hread with
        | none _ _ hspaces =>
            have hrest := hspaces.eq_of_dense (dense_cons tail hclosing)
            exact ⟨rfl, (List.cons.inj hrest).2⟩
        | some _ _ _ hlist =>
            cases hlist with
            | last _ _ _ hitem => exact absurd hitem (hopen _ tail _ _ (.none _))
            | more _ _ _ _ _ hitem _ => exact absurd hitem (hopen _ tail _ _ (.none _))
      · rintro ⟨rfl, rfl⟩
        exact .none _ rest (.none _)
  | cons first others =>
      have hlist := @reads_list_iff _ _ closing Reads text value hclosing hcomma first others hreads
        [] tail (by simp)
      have hdense : Dense (joinOthers text others ++ closing :: tail) := by
        cases others with
        | nil => exact dense_cons tail hclosing
        | cons second others =>
            rw [join_others_cons]
            exact dense_cons _ (by decide)
      rw [joinItems, List.append_assoc]
      constructor
      · intro hread
        cases hread with
        | none _ _ hspaces =>
            have hfirst := (hreads first (by simp) [] _ (by simp) hdense _ _).2 ⟨rfl, rfl⟩
            exact absurd hfirst (hopen _ _ _ _ hspaces)
        | some _ _ _ hitems => exact hlist.1 hitems
      · intro hvalues
        exact .some _ values rest (hlist.2 hvalues)

end Items

/-! ## Values inside of others -/

/-- A value is legible if its text, before any other text, has one reading as a value. -/
def Legible (json : Json) : Prop :=
  ∀ tail value rest, ReadsValue (render json ++ tail) value rest ↔
    value = toValue json ∧ rest = tail

theorem Legible.dense {json : Json} (h : Legible json) (tail : Text) :
    Dense (render json ++ tail) :=
  ((h tail _ _).2 ⟨rfl, rfl⟩).dense

/-- A legible value is the only reading of its text as an element. -/
theorem Legible.reads_element {json : Json} (h : Legible json) :
    ReadsOnly ReadsElement (render json) (toValue json) := by
  intro lead tail hlead htail other rest
  have hspaces := spaces_append (render json ++ tail) hlead
  constructor
  · intro hread
    cases hread with
    | element _ start _ after _ hstart hvalue hafter =>
        obtain rfl := hspaces.unique hstart (h.dense tail) hvalue.dense
        obtain ⟨rfl, rfl⟩ := (h tail other after).1 hvalue
        exact ⟨rfl, hafter.eq_of_dense htail⟩
  · rintro ⟨rfl, rfl⟩
    exact .element _ _ _ rest rest hspaces ((h rest _ _).2 ⟨rfl, rfl⟩) (.none rest)

/-- A key and a legible value are the only reading of their text as a member. -/
theorem Legible.reads_member {member : Text × Json} (h : Legible member.2) :
    ReadsOnly ReadsMember (renderMember member) (member.1, toValue member.2) := by
  obtain ⟨key, json⟩ := member
  intro lead tail hlead htail other rest
  have htext : renderMember (key, json) ++ tail =
      '"' :: (key.flatMap escape ++ '"' :: ':' :: ([' '] ++ (render json ++ tail))) := by
    simp [renderMember, renderString]
  have hspaces := spaces_append (renderMember (key, json) ++ tail) hlead
  have helement := h.reads_element [' '] tail is_space_blank htail
  rw [htext] at hspaces ⊢
  constructor
  · intro hread
    cases hread with
    | member _ chars other after later value _ hstart hkey hcolon hvalue =>
        have hchars := hspaces.unique hstart (dense_cons _ (by decide)) (dense_cons _ (by decide))
        obtain ⟨-, rfl⟩ := List.cons.inj hchars
        obtain ⟨rfl, rfl⟩ := reads_chars_iff.1 hkey
        have hlater := hcolon.eq_of_dense (dense_cons _ (by decide))
        obtain ⟨-, rfl⟩ := List.cons.inj hlater
        obtain ⟨rfl, rfl⟩ := (helement value rest).1 hvalue
        exact ⟨rfl, rfl⟩
  · rintro ⟨rfl, rfl⟩
    exact .member _ _ key _ _ _ rest hspaces (reads_chars_iff.2 ⟨rfl, rfl⟩) (.none _)
      ((helement _ rest).2 ⟨rfl, rfl⟩)

/-- No element begins with the bracket that closes an array. -/
theorem not_reads_element {start after rest : Text} {value : Value}
    (h : Spaces start (']' :: after)) : ¬ ReadsElement start value rest := by
  intro hread
  cases hread with
  | element _ text _ _ _ hspaces hvalue _ =>
      obtain rfl := h.unique hspaces (dense_cons after (by decide)) hvalue.dense
      exact hvalue.head.2 rfl

/-- No member begins with the bracket that closes an object. -/
theorem not_reads_member {start after rest : Text} {member : Text × Value}
    (h : Spaces start ('}' :: after)) : ¬ ReadsMember start member rest := by
  intro hread
  cases hread with
  | member _ chars _ _ _ _ _ hspaces _ _ _ =>
      cases h.unique hspaces (dense_cons after (by decide)) (dense_cons chars (by decide))

/-! ## All values -/

theorem render_array (items : List Json) (tail : Text) :
    render (.array items) ++ tail = '[' :: (joinItems render items ++ ']' :: tail) := by
  cases items with
  | nil => rfl
  | cons first others => simp [render, render_items_eq, joinItems, joinOthers]

theorem render_object (members : List (Text × Json)) (tail : Text) :
    render (.object members) ++ tail = '{' :: (joinItems renderMember members ++ '}' :: tail) := by
  cases members with
  | nil => rfl
  | cons first others =>
      obtain ⟨key, value⟩ := first
      simp [render, render_members_eq, joinItems, joinOthers, renderMember]

theorem legible_null : Legible .null := by
  intro tail value rest
  show ReadsValue ('n' :: 'u' :: 'l' :: 'l' :: tail) value rest ↔ _
  constructor
  · intro hread
    cases hread with
    | wordNull => exact ⟨rfl, rfl⟩
    | number _ _ _ hnumber htext => exact absurd (is_number_head hnumber htext) (by decide)
    | array _ _ _ hread | object _ _ _ hread => cases hread
  · rintro ⟨rfl, rfl⟩
    exact .wordNull rest

theorem legible_bool (truth : Bool) : Legible (.bool truth) := by
  intro tail value rest
  cases truth with
  | true =>
      show ReadsValue ('t' :: 'r' :: 'u' :: 'e' :: tail) value rest ↔ _
      constructor
      · intro hread
        cases hread with
        | wordTrue => exact ⟨rfl, rfl⟩
        | number _ _ _ hnumber htext => exact absurd (is_number_head hnumber htext) (by decide)
        | array _ _ _ hread | object _ _ _ hread => cases hread
      · rintro ⟨rfl, rfl⟩
        exact .wordTrue rest
  | false =>
      show ReadsValue ('f' :: 'a' :: 'l' :: 's' :: 'e' :: tail) value rest ↔ _
      constructor
      · intro hread
        cases hread with
        | wordFalse => exact ⟨rfl, rfl⟩
        | number _ _ _ hnumber htext => exact absurd (is_number_head hnumber htext) (by decide)
        | array _ _ _ hread | object _ _ _ hread => cases hread
      · rintro ⟨rfl, rfl⟩
        exact .wordFalse rest

theorem legible_string (text : Text) : Legible (.string text) := by
  intro tail value rest
  have hrender : render (.string text) ++ tail = '"' :: (text.flatMap escape ++ '"' :: tail) := by
    simp [render, renderString]
  rw [hrender]
  constructor
  · intro hread
    cases hread with
    | number _ _ _ hnumber htext => exact absurd (is_number_head hnumber htext) (by decide)
    | string _ chars _ hchars =>
        obtain ⟨rfl, rfl⟩ := reads_chars_iff.1 hchars
        exact ⟨rfl, rfl⟩
    | array _ _ _ hread | object _ _ _ hread => cases hread
  · rintro ⟨rfl, rfl⟩
    exact .string _ text rest (reads_chars_iff.2 ⟨rfl, rfl⟩)

theorem legible_array {items : List Json} (h : ∀ item ∈ items, Legible item) :
    Legible (.array items) := by
  intro tail value rest
  have hitems := @reads_bracketed_iff _ _ '[' ']' ReadsElement render toValue (by decide)
    (by decide) (fun _ _ _ _ => not_reads_element) items
    (fun item hitem => (h item hitem).reads_element) tail
  rw [render_array, toValue, to_values_eq]
  constructor
  · intro hread
    cases hread with
    | number _ _ _ hnumber htext => exact absurd (is_number_head hnumber htext) (by decide)
    | array _ items _ hread =>
        obtain ⟨rfl, rfl⟩ := hitems.1 hread
        exact ⟨rfl, rfl⟩
    | object _ _ _ hread => cases hread
  · rintro ⟨rfl, rfl⟩
    exact .array _ _ rest (hitems.2 ⟨rfl, rfl⟩)

theorem legible_object {members : List (Text × Json)} (h : ∀ member ∈ members, Legible member.2) :
    Legible (.object members) := by
  intro tail value rest
  have hmembers := @reads_bracketed_iff _ _ '{' '}' ReadsMember renderMember
    (fun member => (member.1, toValue member.2)) (by decide) (by decide)
    (fun _ _ _ _ => not_reads_member) members
    (fun member hmember => (h member hmember).reads_member) tail
  rw [render_object, toValue, to_members_eq]
  constructor
  · intro hread
    cases hread with
    | number _ _ _ hnumber htext => exact absurd (is_number_head hnumber htext) (by decide)
    | array _ _ _ hread => cases hread
    | object _ members _ hread =>
        obtain ⟨rfl, rfl⟩ := hmembers.1 hread
        exact ⟨rfl, rfl⟩
  · rintro ⟨rfl, rfl⟩
    exact .object _ _ rest (hmembers.2 ⟨rfl, rfl⟩)

/-- Every value is legible. -/
theorem legible (json : Json) : Legible json := by
  induction json with
  | null => exact legible_null
  | bool truth => exact legible_bool truth
  | string text => exact legible_string text
  | array items ih => exact legible_array ih
  | object members ih => exact legible_object ih

/-- The text of a value is one JSON value, the value itself. -/
theorem denotes_render_iff {json : Json} {value : Value} :
    Denotes (render json) value ↔ value = toValue json := by
  have hread := (legible json).reads_element [] [] (by simp) (by simp [Dense]) value []
  simpa [Denotes] using hread

/-! ## Printable characters -/

/-- The printable characters of ASCII. -/
def IsAscii (text : Text) : Prop :=
  ∀ c ∈ text, ' ' ≤ c ∧ c ≤ '~'

instance : DecidablePred IsAscii := fun text =>
  List.decidableBAll (fun c => ' ' ≤ c ∧ c ≤ '~') text

theorem is_ascii_append {first second : Text} (hfirst : IsAscii first) (hsecond : IsAscii second) :
    IsAscii (first ++ second) :=
  List.forall_mem_append.2 ⟨hfirst, hsecond⟩

theorem is_ascii_cons {c : Char} {text : Text} (hc : ' ' ≤ c ∧ c ≤ '~') (htext : IsAscii text) :
    IsAscii (c :: text) :=
  List.forall_mem_cons.2 ⟨hc, htext⟩

theorem is_ascii_flat_map {α : Type} {items : List α} {text : α → Text}
    (h : ∀ item ∈ items, IsAscii (text item)) : IsAscii (items.flatMap text) := by
  intro c hc
  obtain ⟨item, hitem, hc⟩ := List.mem_flatMap.1 hc
  exact h item hitem c hc

theorem is_ascii_unit_escape {unit : Nat} (h : unit < 0x10000) : IsAscii (unitEscape unit) := by
  have hdigit : ∀ n < 16, ' ' ≤ Nat.digitChar n ∧ Nat.digitChar n ≤ '~' := by decide
  rw [unitEscape, Text.hexadecimal_four h]
  refine is_ascii_cons (by decide) (is_ascii_cons (by decide) ?_)
  refine is_ascii_cons (hdigit _ (by omega)) (is_ascii_cons (hdigit _ (by omega)) ?_)
  refine is_ascii_cons (hdigit _ (by omega)) (is_ascii_cons (hdigit _ (by omega)) ?_)
  exact List.forall_mem_nil _

/-- However a character is written, the text is printable ASCII. -/
theorem is_ascii_escape (c : Char) : IsAscii (escape c) := by
  unfold escape
  cases hshort : shortEscapes.lookup c with
  | some letter =>
      have hletters : ∀ entry ∈ shortEscapes, ' ' ≤ entry.2 ∧ entry.2 ≤ '~' := by decide
      obtain ⟨before, after, hentries, -⟩ := List.lookup_eq_some_iff.1 hshort
      have hletter := hletters (c, letter) (by simp [hentries])
      exact is_ascii_cons (by decide) (is_ascii_cons hletter (List.forall_mem_nil _))
  | none =>
      by_cases hplain : ' ' ≤ c ∧ c ≤ '~'
      · simp only [hplain.1, hplain.2, decide_true, Bool.and_self, if_true]
        exact is_ascii_cons hplain (List.forall_mem_nil _)
      · have hlong : (decide (' ' ≤ c) && decide (c ≤ '~')) = false := by
          simpa using hplain
        simp only [hlong, Bool.false_eq_true, if_false, units]
        refine is_ascii_flat_map fun unit hunit => is_ascii_unit_escape ?_
        have hlt := to_nat_lt c
        split at hunit
        · simp only [List.mem_singleton] at hunit
          omega
        · simp only [List.mem_cons, List.not_mem_nil, or_false] at hunit
          omega

theorem is_ascii_string (text : Text) : IsAscii (renderString text) :=
  is_ascii_cons (by decide)
    (is_ascii_append (is_ascii_flat_map fun c _ => is_ascii_escape c)
      (is_ascii_cons (by decide) (List.forall_mem_nil _)))

theorem is_ascii_items {β : Type} {text : β → Text} {items : List β}
    (h : ∀ item ∈ items, IsAscii (text item)) : IsAscii (joinItems text items) := by
  cases items with
  | nil => exact List.forall_mem_nil _
  | cons first others =>
      rw [List.forall_mem_cons] at h
      have hcomma : IsAscii ", ".toList := by decide
      exact is_ascii_append h.1
        (is_ascii_flat_map fun item hitem => is_ascii_append hcomma (h.2 item hitem))

/-- The text of a value is printable ASCII. -/
theorem is_ascii_render (json : Json) : IsAscii (render json) := by
  induction json with
  | null => decide
  | bool truth => cases truth <;> decide
  | string text => exact is_ascii_string text
  | array items ih =>
      have hrender := render_array items []
      rw [List.append_nil] at hrender
      rw [hrender]
      exact is_ascii_cons (by decide)
        (is_ascii_append (is_ascii_items ih) (is_ascii_cons (by decide) (List.forall_mem_nil _)))
  | object members ih =>
      have hrender := render_object members []
      rw [List.append_nil] at hrender
      have hcolon : IsAscii ": ".toList := by decide
      have hmember : ∀ member ∈ members, IsAscii (renderMember member) := by
        intro member hmember
        exact is_ascii_append (is_ascii_append (is_ascii_string member.1) hcolon)
          (ih member hmember)
      rw [hrender]
      exact is_ascii_cons (by decide)
        (is_ascii_append (is_ascii_items hmember)
          (is_ascii_cons (by decide) (List.forall_mem_nil _)))

end VersionMatch.Json
