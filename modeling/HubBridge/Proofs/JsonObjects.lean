import HubBridge.Proofs.JsonLexemes
import Mathlib.Data.List.Forall2
import Mathlib.Data.List.Nodup

/-!
# Objects that the JSON writer wrote

Members with distinct names are read back with the cells they were written with, in whatever order
they stand and with unknown ones between them, by each of the three readers of an object: field by
field as the text is met, through whole values, and with the shape taken out.
-/

namespace HubBridge.Proofs

open Json

/-! ### The text of an object -/

/-- The members of an object, each but the first behind a comma, with the closing brace and what
follows it. -/
def membersText : Bool → List (String × Cell) → List Char → List Char
  | _, [], s => '}' :: s
  | first, (name, cell) :: members, s =>
    (if first then [] else [',']) ++
      (writeString name ++ ':' :: (writeCell cell ++ membersText false members s))

lemma endsMember_membersText (members : List (String × Cell)) (s : List Char) :
    EndsMember (membersText false members s) := by
  rcases members with _ | ⟨⟨name, cell⟩, members⟩
  · exact ⟨_, .inr rfl⟩
  · exact ⟨_, .inl rfl⟩

lemma length_lt_membersText (first : Bool) (members : List (String × Cell)) (s : List Char) :
    members.length < (membersText first members s).length := by
  induction members generalizing first with
  | nil => simp [membersText]
  | cons member members ih =>
    have hrest := ih false
    simp only [membersText, List.length_cons, List.length_append]
    omega

lemma writeMembers_append (members : List (String × Cell)) (s : List Char) :
    writeMembers members ++ '}' :: s = membersText true members s := by
  induction members with
  | nil => rfl
  | cons member members ih =>
    rcases members with _ | ⟨next, members⟩
    · simp [writeMembers, membersText]
    · rw [writeMembers, List.append_assoc, List.cons_append, ih]
      · simp [membersText]
      · simp

lemma writeObject_append (members : List (String × Cell)) (s : List Char) :
    writeObject members ++ s = '{' :: membersText true members s := by
  rw [writeObject, List.append_assoc, List.singleton_append, List.cons_append, writeMembers_append]

lemma noControls_writeObject (members : List (String × Cell)) :
    NoControls (writeObject members) := by
  have htext (first : Bool) : NoControls (membersText first members []) := by
    induction members generalizing first with
    | nil => exact .cons (by decide) (by decide)
    | cons member members ih =>
      have hcomma : NoControls (if first then [] else [',']) := by
        cases first <;> decide
      exact hcomma.append ((noControls_writeString member.1).append
        (.cons (by decide) ((noControls_writeCell member.2).append (ih false))))
  have hwritten := writeObject_append members []
  rw [List.append_nil] at hwritten
  rw [hwritten]
  exact .cons (by decide) (htext true)

lemma readKey_written (first : Bool) (name : String) (s : List Char) :
    readKey first ((if first then [] else [',']) ++ (writeString name ++ s)) =
      .ok (some name, s) := by
  rw [writeString_append]
  cases first with
  | true =>
    rw [if_pos rfl, List.nil_append, readKey, skipSpace_cons rfl]
    simp [readString_escaped, bind, Except.bind]
  | false =>
    rw [if_neg Bool.false_ne_true, List.singleton_append, readKey, skipSpace_cons rfl]
    simp [skipSpace_cons (c := '"') rfl, readString_escaped, bind, Except.bind]

lemma readColon_cons (s : List Char) : readColon (':' :: s) = .ok s := rfl

/-! ### Members and their fields -/

/-- The members that belong to these fields. -/
def known (fields : List Field) (members : List (String × Cell)) : List (String × Cell) :=
  members.filter fun member => (fields.find? (·.name == member.1)).isSome

/-- No field meets a cell of another kind. -/
def AllFit (fields : List Field) (members : List (String × Cell)) : Prop :=
  ∀ member ∈ members, ∀ field ∈ fields, field.name = member.1 → Fits field.kind member.2

lemma AllFit.of_find {fields : List Field} {members : List (String × Cell)}
    (h : AllFit fields members) {name : String} {cell : Cell} (hmem : (name, cell) ∈ members)
    {field : Field} (hfield : fields.find? (·.name == name) = some field) : Fits field.kind cell :=
  h _ hmem field (List.mem_of_find?_eq_some hfield) (by simpa using List.find?_some hfield)

lemma AllFit.tail {fields : List Field} {member : String × Cell} {members : List (String × Cell)}
    (h : AllFit fields (member :: members)) : AllFit fields members :=
  fun other hother => h other (List.mem_cons_of_mem _ hother)

lemma lookup_of_mem {members : List (String × Cell)} (hnames : (members.map Prod.fst).Nodup)
    {name : String} {cell : Cell} (h : (name, cell) ∈ members) :
    members.lookup name = some cell := by
  induction members with
  | nil => cases h
  | cons member members ih =>
    obtain ⟨hnew, hnames⟩ := List.nodup_cons.mp hnames
    rcases List.mem_cons.mp h with rfl | h
    · simp
    · have hne : (name == member.1) = false := by
        refine beq_false_of_ne fun heq => hnew ?_
        rw [← heq]
        exact List.mem_map_of_mem h
      rw [List.lookup_cons, hne]
      exact ih hnames h

lemma lookup_of_not_mem {members : List (String × Cell)} {name : String}
    (h : name ∉ members.map Prod.fst) : members.lookup name = none := by
  rw [List.lookup_eq_none_iff]
  intro member hmem
  refine bne_iff_ne.mpr fun heq => h ?_
  rw [heq]
  exact List.mem_map_of_mem hmem

lemma collect_eq_ok {fields : List Field} {cells : List Cell} {found : List (String × Cell)}
    (h : List.Forall₂ (fun field cell => found.lookup field.name = some cell) fields cells) :
    collect fields found = .ok cells := by
  induction h with
  | nil => rfl
  | cons hfield _ ih =>
    rw [collect, List.mapM_cons] at *
    rw [ih, hfield]
    rfl

/-- The members that were found, last first, give each field its cell. -/
lemma collect_known {fields : List Field} {cells : List Cell} {members : List (String × Cell)}
    (hnames : (members.map Prod.fst).Nodup)
    (hcells : List.Forall₂ (fun field cell => (field.name, cell) ∈ members) fields cells) :
    collect fields (known fields members).reverse = .ok cells := by
  have hfound : ((known fields members).reverse.map Prod.fst).Nodup := by
    rw [List.map_reverse]
    exact List.nodup_reverse.mpr (hnames.sublist (List.filter_sublist.map _))
  refine collect_eq_ok (((List.forall₂_and_left _ _).mpr ⟨fun _ hfield => hfield, hcells⟩).imp ?_)
  rintro field cell ⟨hfield, hmem⟩
  refine lookup_of_mem hfound (List.mem_reverse.mpr (List.mem_filter.mpr ⟨hmem, ?_⟩))
  rw [List.find?_isSome]
  exact ⟨field, hfield, beq_self_eq_true _⟩

/-! ### The three readers -/

lemma readFields_written (fields : List Field) (members : List (String × Cell)) (first : Bool)
    (found : List (String × Cell)) (s : List Char) (hfits : AllFit fields members)
    (hnames : (members.map Prod.fst ++ found.map Prod.fst).Nodup) (bound : Nat)
    (hbound : members.length < bound) :
    readFields fields bound first found (membersText first members s) =
      .ok ((known fields members).reverse ++ found, s) := by
  induction members generalizing first found bound with
  | nil =>
    obtain _ | bound := bound
    · simp at hbound
    · rfl
  | cons member members ih =>
    obtain ⟨name, cell⟩ := member
    obtain _ | bound := bound
    · simp at hbound
    have hbound : members.length < bound := by simpa using hbound
    have hends := endsMember_membersText members s
    have hnew : found.lookup name = none := lookup_of_not_mem fun hmem =>
      (List.nodup_append.mp hnames).2.2 name List.mem_cons_self name hmem rfl
    rw [membersText, readFields, readKey_written]
    cases hfield : fields.find? (·.name == name) with
    | none =>
      have hrest := ih false found hfits.tail (List.nodup_cons.mp hnames).2 bound hbound
      simp [bind, Except.bind, hfield, readColon_cons, skipValue_written cell hends, hrest, known]
    | some field =>
      have hnames : (members.map Prod.fst ++ ((name, cell) :: found).map Prod.fst).Nodup :=
        List.nodup_middle.mpr hnames
      have hread := readCell_written (hfits.of_find List.mem_cons_self hfield) hends
      have hrest := ih false ((name, cell) :: found) hfits.tail hnames bound hbound
      simp [bind, Except.bind, hfield, readColon_cons, hnew, hread, hrest, known]

/-- Members as they are written are read field by field, as the text is met. -/
lemma readCells_written {fields : List Field} {cells : List Cell} {members : List (String × Cell)}
    (hfits : AllFit fields members) (hnames : (members.map Prod.fst).Nodup)
    (hcells : List.Forall₂ (fun field cell => (field.name, cell) ∈ members) fields cells)
    (s : List Char) : readCells fields (writeObject members ++ s) = .ok (cells, s) := by
  have hfound := readFields_written fields members true [] s hfits (by simpa using hnames) _
    ((length_lt_membersText true members s).trans (Nat.lt_succ_self _))
  rw [writeObject_append, readCells, skipSpace_cons rfl]
  simp [bind, Except.bind, hfound, collect_known hnames hcells]

/-- The same members as values of their own. -/
def asValues (members : List (String × Cell)) : List (String × Value) :=
  members.map fun member => (member.1, valueOf member.2)

lemma fieldsOfMembers_asValues (fields : List Field) (members : List (String × Cell))
    (found : List (String × Cell)) (hfits : AllFit fields members)
    (hnames : (members.map Prod.fst ++ found.map Prod.fst).Nodup) :
    fieldsOfMembers fields found (asValues members) =
      .ok ((known fields members).reverse ++ found) := by
  induction members generalizing found with
  | nil => rfl
  | cons member members ih =>
    obtain ⟨name, cell⟩ := member
    have hnew : found.lookup name = none := lookup_of_not_mem fun hmem =>
      (List.nodup_append.mp hnames).2.2 name List.mem_cons_self name hmem rfl
    rw [asValues, List.map_cons, fieldsOfMembers]
    cases hfield : fields.find? (·.name == name) with
    | none =>
      have hrest := ih found hfits.tail (List.nodup_cons.mp hnames).2
      rw [asValues] at hrest
      simp [hfield, hrest, known]
    | some field =>
      have hnames : (members.map Prod.fst ++ ((name, cell) :: found).map Prod.fst).Nodup :=
        List.nodup_middle.mpr hnames
      have hvalue := ofValue?_valueOf (hfits.of_find List.mem_cons_self hfield)
      have hrest := ih ((name, cell) :: found) hfits.tail hnames
      rw [asValues] at hrest
      simp [hfield, hnew, hvalue, hrest, known]

/-- Members without the shape's name pass by it unchanged. -/
lemma readTagged_written (names : List String) (tag : Option String)
    (members : List (String × Cell)) (first : Bool) (s : List Char)
    (huntagged : tagName ∉ members.map Prod.fst) (depth bound : Nat)
    (hbound : members.length < bound) :
    readTagged names bound depth first tag (membersText first members s) =
      .ok ((tag, asValues members), s) := by
  induction members generalizing first bound with
  | nil =>
    obtain _ | bound := bound
    · simp at hbound
    · rfl
  | cons member members ih =>
    obtain ⟨name, cell⟩ := member
    obtain _ | bound := bound
    · simp at hbound
    rw [List.map_cons, List.mem_cons, not_or] at huntagged
    have hends := endsMember_membersText members s
    have hvalue := readValueWithin_written cell hends
    have hrest := ih false huntagged.2 bound (by simpa using hbound)
    rw [membersText, readTagged, readKey_written]
    simp [bind, Except.bind, Ne.symm huntagged.1, readColon_cons, readValue, stepBound, hvalue,
      hrest, asValues]

lemma readTagged_tag {names : List String} {shape : String} (hshape : shape ∈ names)
    {members : List (String × Cell)} (huntagged : tagName ∉ members.map Prod.fst) (s : List Char)
    (depth bound : Nat) (hbound : members.length + 1 < bound) :
    readTagged names bound depth true none
      (membersText true ((tagName, .text shape) :: members) s) =
        .ok ((some shape, asValues members), s) := by
  obtain _ | bound := bound
  · simp at hbound
  have hname := readName_written hshape (membersText false members s)
  have hrest := readTagged_written names (some shape) members false s huntagged depth bound
    (by omega)
  rw [membersText, readTagged, readKey_written]
  simp [bind, Except.bind, readColon_cons, writeCell, hname, hrest]

lemma readMembers_written (members : List (String × Cell)) (first : Bool) (s : List Char)
    (depth bound : Nat) (hbound : members.length + 1 < bound) :
    readMembers bound depth first (membersText first members s) = .ok (asValues members, s) := by
  induction members generalizing first bound with
  | nil =>
    obtain _ | bound := bound
    · simp at hbound
    · rw [membersText, readMembers]
      rfl
  | cons member members ih =>
    obtain ⟨name, cell⟩ := member
    obtain _ | _ | bound := bound
    · simp at hbound
    · simp at hbound
    have hends := endsMember_membersText members s
    have hvalue := readValueWithin_written cell hends bound depth
    have hrest := ih false (bound + 1) (by simpa using hbound)
    rw [membersText, readMembers, readKey_written]
    simp [bind, Except.bind, readColon_cons, hvalue, hrest, asValues]

/-- The object as a whole value. -/
lemma readValue_written (members : List (String × Cell)) (s : List Char) {depth : Nat}
    (hdepth : 1 < depth) :
    readValue depth (writeObject members ++ s) = .ok (.object (asValues members), s) := by
  have hlength := length_lt_membersText true members s
  have hmembers := readMembers_written members true s (depth - 1)
    (2 * ('{' :: membersText true members s).length + 1) (by rw [List.length_cons]; omega)
  rw [writeObject_append, readValue, stepBound, readValueWithin, skipSpace_cons rfl]
  simp only [if_neg (show ¬ depth ≤ 1 by omega), hmembers, bind, Except.bind]

end HubBridge.Proofs
