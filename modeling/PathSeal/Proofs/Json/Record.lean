import PathSeal.Json.Record
import PathSeal.Proofs.Json.Grammar

/-!
# PathSeal.Proofs.Json.Record

Reading a record from an object (`Schema.read_of_holds`). The object may have its members
in any order and with any blanks between them, and their names may be written in any way.
Each field must be held by one member (`Holds`). Members of other names may be among them,
with any values.

One member at a time fills the field of its name (`Fills`). A field that is filled stays
as it is when the members of the others are read, so their order makes no difference
(`FillsAll.insert`).

If no two fields have the same name, an object holds a record whenever its members are
those of the record and some others, in any order (`Carries.holds`). The text of a record
is such an object, so it is read back (`Schema.read_compact`).
-/

namespace PathSeal.Json

/-! ## Values -/

/-- The ways to write a value of a kind. -/
def Kind.Writes : (kind : Kind) → kind.Value → List Char → Prop
  | .text, s, cs => ∃ inner, Spells inner s.toList ∧ cs = '"' :: (inner ++ ['"'])
  | .boolean, b, cs => cs = if b then ['t', 'r', 'u', 'e'] else ['f', 'a', 'l', 's', 'e']
  | .count _, n, cs => cs = Nat.toDigits 10 n.toNat

/-- A value is read back however it is written. -/
theorem readValue_append {kind : Kind} {value : kind.Value} {ws cs rest : List Char}
    (hws : Blanks ws) (h : kind.Writes value cs) (hends : Ends rest) :
    readValue kind (ws ++ (cs ++ rest)) = .ok (value, rest) := by
  cases kind with
  | text =>
    obtain ⟨inner, hinner, rfl⟩ := h
    have hstring : string (inner ++ ['"'] ++ rest) = .ok (value.toList, rest) := by
      rw [List.append_assoc]
      exact string_of_spells rest hinner
    rw [readValue, skipBlanks_append hws, List.cons_append, skipBlanks_cons rfl]
    simp only [hstring, bind, Except.bind]
    show Except.ok (String.ofList value.toList, rest) = _
    rw [String.ofList_toList]
  | boolean =>
    rw [Kind.Writes] at h
    cases value with
    | true =>
      rw [h, readValue, skipBlanks_append hws]
      rfl
    | false =>
      rw [h, readValue, skipBlanks_append hws]
      rfl
  | count word =>
    rw [Kind.Writes] at h
    have hn : UInt64.toNat value ≤ maxWhole := Nat.le_pred_of_lt value.toNat_lt
    obtain ⟨d, ds, hds, hd, hnumber⟩ := number_toDigits hends hn
    have hminus : d ≠ '-' := by
      rintro rfl
      contradiction
    rw [h, hds, List.cons_append, readValue, skipBlanks_append hws,
      skipBlanks_cons (isFirst_of_isDigit hd).1]
    simp only [if_neg hminus, if_pos hd, readCount, hnumber, bind, Except.bind]
    show Except.ok (UInt64.ofNat (UInt64.toNat value), rest) = _
    rw [UInt64.ofNat_toNat]

/-! ## Members -/

/-- A member of an object: its name, and its value as it is written. -/
abbrev Entry := String × List Char

/-- The ways to write a member. -/
inductive WritesEntry : Entry → List Char → Prop where
  | parts {name : String} {before key between ahead value : List Char} (hbefore : Blanks before)
    (hkey : Spells key name.toList) (hbetween : Blanks between) (hahead : Blanks ahead) :
    WritesEntry (name, value)
      (before ++ '"' :: (key ++ '"' :: (between ++ ':' :: (ahead ++ value))))

/-- The ways to write members one after the other. -/
inductive WritesEntries : List Entry → List Char → Prop where
  | last {entry : Entry} {cs after : List Char} (h : WritesEntry entry cs) (hafter : Blanks after) :
    WritesEntries [entry] (cs ++ after)
  | more {entry : Entry} {entries : List Entry} {cs after rest : List Char}
    (h : WritesEntry entry cs) (hafter : Blanks after) (hrest : WritesEntries entries rest) :
    WritesEntries (entry :: entries) (cs ++ (after ++ ',' :: rest))

/-- The ways to write an object as a whole text. -/
inductive WritesObject : List Entry → String → Prop where
  | empty {before between after : List Char} (hbefore : Blanks before) (hbetween : Blanks between)
    (hafter : Blanks after) :
    WritesObject [] (String.ofList (before ++ '\x7b' :: (between ++ '\x7d' :: after)))
  | full {entries : List Entry} {before inner after : List Char} (hbefore : Blanks before)
    (h : WritesEntries entries inner) (hafter : Blanks after) :
    WritesObject entries (String.ofList (before ++ '\x7b' :: (inner ++ '\x7d' :: after)))

/-- The entries of an object hold the fields of a record: each field has one entry of its name, and
the entries of other names have any values. -/
def Holds : (fields : List Field) → Row fields → List Entry → Prop
  | [], (), entries => ∀ entry ∈ entries, Derives .value entry.2
  | (name, kind) :: fields, (value, row), entries =>
    ∃ before cs after, entries = before ++ (name, cs) :: after ∧ kind.Writes value cs ∧
      (∀ entry ∈ before ++ after, entry.1 ≠ name) ∧ Holds fields row (before ++ after)

/-! ## Filling fields -/

section

variable {fields : List Field} {values values' : Partial fields} {name key : String} {kind : Kind}

/-- An entry fills its field, whatever blanks there are around its colon. -/
def Fills (fields : List Field) (values : Partial fields) (entry : Entry)
    (values' : Partial fields) : Prop :=
  ∀ between ahead rest, Blanks between → Blanks ahead → Ends rest →
    readField fields values entry.1 (between ++ ':' :: (ahead ++ (entry.2 ++ rest))) =
      .ok (values', rest)

theorem takeColon_append {between : List Char} (h : Blanks between) (cs : List Char) :
    takeColon (between ++ ':' :: cs) = .ok cs := by
  rw [takeColon, skipBlanks_append h, skipBlanks_cons rfl]
  rfl

/-- A value that is right for an open field fills it. -/
theorem Fills.of_writes {value : kind.Value} {cs : List Char} (h : kind.Writes value cs) :
    Fills ((name, kind) :: fields) (none, values) (name, cs) (some value, values) := by
  intro between ahead rest hbetween hahead hends
  unfold readField
  dsimp only
  rw [if_pos rfl, takeColon_append hbetween]
  simp only [bind, Except.bind, readValue_append hahead h hends]
  rfl

/-- The fields of other names stay as they are. -/
theorem Fills.of_ne {entry : Entry} (value : Option kind.Value) (hne : entry.1 ≠ name)
    (h : Fills fields values entry values') :
    Fills ((name, kind) :: fields) (value, values) entry (value, values') := by
  intro between ahead rest hbetween hahead hends
  unfold readField
  dsimp only
  rw [if_neg hne.symm, h between ahead rest hbetween hahead hends]
  rfl

/-- The value of any other member is skipped. -/
theorem Fills.of_derives {entry : Entry} (h : Derives .value entry.2) : Fills [] () entry () := by
  intro between ahead rest hbetween hahead hends
  rw [readField, takeColon_append hbetween]
  simp only [bind, Except.bind, skipValue_append hahead h hends]
  rfl

/-- Entries fill fields one after the other. -/
inductive FillsAll (fields : List Field) : Partial fields → List Entry → Partial fields → Prop where
  | nil (values : Partial fields) : FillsAll fields values [] values
  | cons {values values' values'' : Partial fields} {entry : Entry} {entries : List Entry}
    (h : Fills fields values entry values') (hmore : FillsAll fields values' entries values'') :
    FillsAll fields values (entry :: entries) values''

theorem FillsAll.eq_of_nil (h : FillsAll fields values [] values') : values = values' := by
  cases h
  rfl

/-- Entries of other names leave a field as it is. -/
theorem FillsAll.of_ne {entries : List Entry} (value : Option kind.Value)
    (hne : ∀ entry ∈ entries, entry.1 ≠ name) (h : FillsAll fields values entries values') :
    FillsAll ((name, kind) :: fields) (value, values) entries (value, values') := by
  induction h with
  | nil values => exact .nil _
  | cons h hmore ih =>
    rw [List.forall_mem_cons] at hne
    exact .cons (h.of_ne value hne.1) (ih hne.2)

/-- It does not matter where among them the entry of the field is. -/
theorem FillsAll.insert {value : kind.Value} {before after : List Entry} {cs : List Char}
    (hwrites : kind.Writes value cs) (hne : ∀ entry ∈ before ++ after, entry.1 ≠ name)
    (h : FillsAll fields values (before ++ after) values') :
    FillsAll ((name, kind) :: fields) (none, values) (before ++ (name, cs) :: after)
      (some value, values') := by
  induction before generalizing values with
  | nil => exact .cons (.of_writes hwrites) (h.of_ne (some value) hne)
  | cons entry before ih =>
    rw [List.cons_append, List.forall_mem_cons] at hne
    cases h with
    | cons hfirst hmore => exact .cons (hfirst.of_ne none hne.1) (ih hne.2 hmore)

end

/-- All fields of a record, filled. -/
def Partial.filled : (fields : List Field) → Row fields → Partial fields
  | [], () => ()
  | _ :: fields, (value, row) => (some value, filled fields row)

theorem Partial.complete_filled (fields : List Field) (row : Row fields) :
    (Partial.filled fields row).complete fields = .ok row := by
  induction fields with
  | nil => rfl
  | cons field fields ih =>
    rw [filled, complete, ih]
    rfl

/-- Entries that hold a record fill all its fields. -/
theorem Holds.fillsAll {fields : List Field} {row : Row fields} {entries : List Entry}
    (h : Holds fields row entries) :
    FillsAll fields (.empty fields) entries (.filled fields row) := by
  induction fields generalizing entries with
  | nil =>
    rw [Holds] at h
    induction entries with
    | nil => exact .nil _
    | cons entry entries ih =>
      rw [List.forall_mem_cons] at h
      exact .cons (.of_derives h.1) (ih h.2)
  | cons field fields ih =>
    obtain ⟨before, cs, after, rfl, hwrites, hne, hothers⟩ := h
    exact .insert hwrites hne (ih hothers)

/-! ## Reading objects -/

/-- What stands before a key: nothing, or the comma after another member. -/
inductive Leads : Bool → List Char → Prop where
  | first : Leads true []
  | later {ws : List Char} (h : Blanks ws) : Leads false (ws ++ [','])

/-- A key is taken. -/
theorem nextKey_append {first : Bool} {lead before key : List Char} {name : String}
    (hlead : Leads first lead) (hbefore : Blanks before) (hkey : Spells key name.toList)
    (rest : List Char) :
    nextKey first (lead ++ (before ++ '"' :: (key ++ '"' :: rest))) = .ok (some name, rest) := by
  have htaken : nextKey.key (key ++ '"' :: rest) = .ok (some name, rest) := by
    rw [nextKey.key, string_of_spells rest hkey]
    show Except.ok (some (String.ofList name.toList), rest) = _
    rw [String.ofList_toList]
  cases hlead with
  | first =>
    rw [List.nil_append, nextKey, skipBlanks_append hbefore, skipBlanks_cons rfl]
    exact htaken
  | later h =>
    rw [List.append_assoc, nextKey, skipBlanks_append h, List.singleton_append, skipBlanks_cons rfl]
    have hquote : skipBlanks (before ++ '"' :: (key ++ '"' :: rest)) =
        '"' :: (key ++ '"' :: rest) := by
      rw [skipBlanks_append hbefore, skipBlanks_cons rfl]
    simp [hquote, htaken]

section

variable {fields : List Field} {values values' : Partial fields} {first : Bool}

/-- The members end before the closing brace. -/
theorem readMembers_closing {ws : List Char} (h : Blanks ws) (fuel : Nat) (rest : List Char) :
    readMembers fields (fuel + 1) first values (ws ++ '\x7d' :: rest) =
      .ok (values, '\x7d' :: rest) := by
  rw [readMembers, nextKey, skipBlanks_append h, skipBlanks_cons rfl]
  rfl

/-- A member is taken. -/
theorem readMembers_entry {entry : Entry} {lead cs rest : List Char} (hlead : Leads first lead)
    (h : WritesEntry entry cs) (hfills : Fills fields values entry values') (hends : Ends rest)
    (fuel : Nat) :
    readMembers fields (fuel + 1) first values (lead ++ (cs ++ rest)) =
      readMembers fields fuel false values' rest := by
  cases h with
  | @parts name before key between ahead value hbefore hkey hbetween hahead =>
    have hcs : before ++ '"' :: (key ++ '"' :: (between ++ ':' :: (ahead ++ value))) ++ rest =
        before ++ '"' :: (key ++ '"' :: (between ++ ':' :: (ahead ++ (value ++ rest)))) := by simp
    rw [hcs, readMembers, nextKey_append hlead hbefore hkey]
    simp only [bind, Except.bind, hfills between ahead rest hbetween hahead hends]

/-- All members are taken. -/
theorem readMembers_append {entries : List Entry} {inner lead : List Char}
    (h : WritesEntries entries inner) (hlead : Leads first lead)
    (hfills : FillsAll fields values entries values') {fuel : Nat} (hfuel : entries.length < fuel)
    (rest : List Char) :
    readMembers fields fuel first values (lead ++ (inner ++ '\x7d' :: rest)) =
      .ok (values', '\x7d' :: rest) := by
  induction h generalizing first lead values fuel with
  | @last entry cs after h hafter =>
    obtain ⟨fuel, rfl⟩ : ∃ k, fuel = k + 1 + 1 := Nat.exists_eq_add_of_le' hfuel
    have hends : Ends (after ++ '\x7d' :: rest) := ends_append hafter (ends_closing .object rest)
    cases hfills with
    | cons hfirst hmore =>
      cases hmore
      rw [List.append_assoc, readMembers_entry hlead h hfirst hends, readMembers_closing hafter]
  | @more entry entries cs after others h hafter hothers ih =>
    obtain ⟨fuel, rfl⟩ : ∃ k, fuel = k + 1 := Nat.exists_eq_add_of_le' (Nat.zero_lt_of_lt hfuel)
    have hends : Ends (after ++ ',' :: others ++ '\x7d' :: rest) := by
      rw [List.append_assoc]
      exact ends_append hafter (ends_comma _)
    cases hfills with
    | cons hfirst hmore =>
      have hnext := ih (.later hafter) hmore (Nat.lt_of_succ_lt_succ hfuel)
      rw [List.append_assoc, readMembers_entry hlead h hfirst hends, ← hnext]
      simp

theorem WritesEntries.length_le {entries : List Entry} {inner : List Char}
    (h : WritesEntries entries inner) : entries.length ≤ inner.length := by
  have hpos {entry : Entry} {cs : List Char} (h : WritesEntry entry cs) : 0 < cs.length := by
    cases h
    rw [List.length_append, List.length_cons]
    omega
  induction h with
  | last h hafter =>
    have hcs := hpos h
    rw [List.length_append, List.length_singleton]
    omega
  | more h hafter hrest ih =>
    simp only [List.length_append, List.length_cons]
    omega

end

section

variable {fields : List Field} {row : Row fields}

/-- A record whose fields are filled is read from an object after its opening brace. -/
theorem readObject_of_readMembers {cs rest : List Char}
    (h : readMembers fields (cs.length + 1) true (.empty fields) cs =
      .ok (.filled fields row, '\x7d' :: rest)) : readObject fields cs = .ok (row, rest) := by
  have hafter : afterObject ('\x7d' :: rest) = rest := by
    rw [afterObject, skipBlanks_cons rfl]
    rfl
  rw [readObject, h]
  simp only [bind, Except.bind, hafter, Partial.complete_filled]
  rfl

/-- A record is read from the members that hold it. -/
theorem readObject_append {entries : List Entry} {inner : List Char}
    (h : WritesEntries entries inner) (hholds : Holds fields row entries) (rest : List Char) :
    readObject fields (inner ++ '\x7d' :: rest) = .ok (row, rest) := by
  have hfuel : entries.length < (inner ++ '\x7d' :: rest).length + 1 := by
    have hlen := h.length_le
    rw [List.length_append]
    omega
  exact readObject_of_readMembers (readMembers_append h .first hholds.fillsAll hfuel rest)

theorem readObject_empty {ws : List Char} (hws : Blanks ws) (hholds : Holds fields row [])
    (rest : List Char) : readObject fields (ws ++ '\x7d' :: rest) = .ok (row, rest) := by
  apply readObject_of_readMembers
  rw [readMembers_closing hws, hholds.fillsAll.eq_of_nil]

end

/-- A record is read from an object that holds it. -/
theorem Schema.read_of_holds {schema : Schema} {row : Row schema.fields} {entries : List Entry}
    {text : String} (h : WritesObject entries text) (hholds : Holds schema.fields row entries) :
    schema.read text = .ok row := by
  have hread {before inner after : List Char} (hbefore : Blanks before) (hafter : Blanks after)
      (hobject : readObject schema.fields (inner ++ '\x7d' :: after) = .ok (row, after)) :
      schema.read (String.ofList (before ++ '\x7b' :: (inner ++ '\x7d' :: after))) = .ok row := by
    have hrecord : readRecord schema (before ++ '\x7b' :: (inner ++ '\x7d' :: after)) =
        .ok (row, after) := by
      rw [readRecord, skipBlanks_append hbefore, skipBlanks_cons rfl]
      exact hobject
    have hend : skipBlanks after = [] := by
      rw [← List.append_nil after, skipBlanks_append hafter]
      rfl
    rw [Schema.read, String.toList_ofList, hrecord]
    simp only [bind, Except.bind, hend]
    rfl
  cases h with
  | empty hbefore hbetween hafter =>
    exact hread hbefore hafter (readObject_empty hbetween hholds _)
  | full hbefore h hafter => exact hread hbefore hafter (readObject_append h hholds _)

/-! ## Written objects -/

/-- A text is written in one of the ways. -/
theorem writes_writtenString (s : String) : Kind.text.Writes s (Value.writtenString s) :=
  ⟨s.toList.flatMap Value.writtenChar, spells_written s.toList, rfl⟩

theorem derives_text (s : String) : Derives .value (Value.text s).written := by
  rw [Value.written]
  exact .text (spells_written s.toList).isQuotable

/-- Members are written without blanks. -/
theorem writesEntries_written {members : List (String × Value)} (h : members ≠ []) :
    WritesEntries (members.map fun m => (m.1, m.2.written)) (Value.writtenMembers members) := by
  have hentry (name : String) (value : Value) :
      WritesEntry (name, value.written) (Value.writtenString name ++ ':' :: value.written) := by
    have hparts : WritesEntry (name, value.written) _ :=
      .parts blanks_nil (spells_written name.toList) blanks_nil blanks_nil
    simpa [Value.writtenString] using hparts
  induction members with
  | nil => contradiction
  | cons member members ih =>
    obtain ⟨name, value⟩ := member
    cases members with
    | nil =>
      rw [Value.writtenMembers, ← List.append_nil (_ ++ _)]
      exact .last (hentry name value) blanks_nil
    | cons next members =>
      rw [Value.writtenMembers]
      · exact .more (hentry name value) blanks_nil (ih (List.cons_ne_nil _ _))
      · exact List.cons_ne_nil next members

/-- An object is written in one of the ways. -/
theorem writesObject_compact (members : List (String × Value)) :
    WritesObject (members.map fun m => (m.1, m.2.written)) (Value.object members).compact := by
  rw [Value.compact, Value.written]
  cases members with
  | nil => exact .empty blanks_nil blanks_nil blanks_nil
  | cons member members =>
    exact .full blanks_nil (writesEntries_written (List.cons_ne_nil _ _)) blanks_nil

/-! ## Records as objects -/

/-- The entries of a record: its fields in their order, each with its value written in one of the
ways. -/
def WritesRow : (fields : List Field) → Row fields → List Entry → Prop
  | [], (), entries => entries = []
  | (name, kind) :: fields, (value, row), entries =>
    ∃ cs rest, entries = (name, cs) :: rest ∧ kind.Writes value cs ∧ WritesRow fields row rest

/-- The entries of an object are those of a record, in any order, and further ones with other names
and any values. -/
def Carries (fields : List Field) (row : Row fields) (entries : List Entry) : Prop :=
  ∃ own others, entries.Perm (own ++ others) ∧ WritesRow fields row own ∧
    ∀ entry ∈ others, entry.1 ∉ fields.map (·.1) ∧ Derives .value entry.2

section

variable {fields : List Field} {row : Row fields} {entries : List Entry}

theorem WritesRow.map_name (h : WritesRow fields row entries) :
    entries.map (·.1) = fields.map (·.1) := by
  induction fields generalizing entries with
  | nil =>
    rw [WritesRow] at h
    rw [h]
    rfl
  | cons field fields ih =>
    obtain ⟨cs, rest, rfl, -, hrest⟩ := h
    rw [List.map_cons, List.map_cons, ih hrest]

/-- If no two fields have the same name, such an object holds the record. -/
theorem Carries.holds (hnames : (fields.map (·.1)).Nodup) (h : Carries fields row entries) :
    Holds fields row entries := by
  obtain ⟨own, others, hperm, hown, hothers⟩ := h
  induction fields generalizing own entries with
  | nil =>
    rw [WritesRow] at hown
    rw [hown, List.nil_append] at hperm
    exact fun entry hentry => (hothers entry (hperm.mem_iff.mp hentry)).2
  | cons field fields ih =>
    obtain ⟨cs, rest, rfl, hwrites, hrest⟩ := hown
    rw [List.map_cons, List.nodup_cons, ← hrest.map_name] at hnames
    obtain ⟨hname, hnodup⟩ := hnames
    -- The entry of the first field is taken out of both sides.
    have hmem : (field.1, cs) ∈ entries := hperm.mem_iff.mpr List.mem_cons_self
    obtain ⟨before, after, rfl⟩ := List.append_of_mem hmem
    have hperm' : (before ++ after).Perm (rest ++ others) :=
      (List.perm_middle.symm.trans hperm).cons_inv
    have hfresh : ∀ entry ∈ before ++ after, entry.1 ≠ field.1 := by
      intro entry hentry heq
      rcases List.mem_append.mp (hperm'.mem_iff.mp hentry) with hmember | hmember
      · exact hname (heq ▸ List.mem_map_of_mem hmember)
      · exact (hothers entry hmember).1 (by rw [heq]; exact List.mem_cons_self)
    refine ⟨before, cs, after, rfl, hwrites, hfresh, ?_⟩
    rw [hrest.map_name] at hnodup
    refine ih hnodup rest hperm' hrest fun entry hentry => ?_
    obtain ⟨hnot, hderives⟩ := hothers entry hentry
    exact ⟨fun hin => hnot (List.mem_cons_of_mem _ hin), hderives⟩

end

/-- The value of a field as JSON. -/
def Kind.toJson : (kind : Kind) → kind.Value → Json.Value
  | .text, s => .text s
  | .boolean, b => .boolean b
  | .count _, n => .count n.toNat

/-- The members of a record. -/
def Row.members : (fields : List Field) → Row fields → List (String × Value)
  | [], () => []
  | (name, kind) :: fields, (value, row) => (name, kind.toJson value) :: members fields row

/-- The library writes a value in one of the ways. -/
theorem Kind.writes_toJson (kind : Kind) (value : kind.Value) :
    kind.Writes value (kind.toJson value).written := by
  cases kind with
  | text => exact writes_writtenString value
  | boolean => cases value <;> rfl
  | count word => rfl

theorem writesRow_members (fields : List Field) (row : Row fields) :
    WritesRow fields row ((Row.members fields row).map fun m => (m.1, m.2.written)) := by
  induction fields with
  | nil => rfl
  | cons field fields ih => exact ⟨_, _, rfl, field.2.writes_toJson row.1, ih row.2⟩

variable {schema : Schema} {row : Row schema.fields} (hnames : (schema.fields.map (·.1)).Nodup)

include hnames

/-- A record is read from an object that carries it, however that is written. -/
theorem Schema.read_of_carries {entries : List Entry} {text : String}
    (h : WritesObject entries text) (hcarries : Carries schema.fields row entries) :
    schema.read text = .ok row :=
  read_of_holds h (hcarries.holds hnames)

/-- A record is read back from its own text. -/
theorem Schema.read_compact :
    schema.read (Value.object (Row.members schema.fields row)).compact = .ok row := by
  refine schema.read_of_carries hnames (writesObject_compact _) ?_
  refine ⟨_, [], ?_, writesRow_members schema.fields row, by simp⟩
  rw [List.append_nil]

end PathSeal.Json
