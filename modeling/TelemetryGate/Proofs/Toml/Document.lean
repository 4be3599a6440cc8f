import TelemetryGate.Proofs.Members
import TelemetryGate.Proofs.Toml.Lines

/-!
# Documents, read back

Statements are taken into a document where its last header stands, so that what is being added to is
the last member at every level.

* `partsOf`                      a finished table as it is built;
* `plug`                         a table under construction in those around it;
* `within_plug`                  its names lead to it;
* `takeAll_written`              the statements of a table build it;
* `readDocument_writeDocument`   a document is read back.
-/

namespace TelemetryGate.Toml

variable {d : Nat} {name : String} {ms : List (String × Toml)} {here ps : Parts}

/-! ### finished tables -/

mutual

/-- A value as it is built, a table by a header of its own. -/
def partOf : Toml → Part
  | .table ms => .table .written (partsOf ms)
  | v => .value v

def partsOf : List (String × Toml) → Parts
  | [] => []
  | (name, v) :: rest => (name, partOf v) :: partsOf rest

end

mutual

theorem toToml_partOf (v : Toml) : (partOf v).toToml = v := by
  cases v with
  | table ms =>
    rw [partOf, Part.toToml, membersOf_partsOf]
  | _ => rfl

theorem membersOf_partsOf (ms : List (String × Toml)) : membersOf (partsOf ms) = ms := by
  match ms with
  | [] => rfl
  | (name, v) :: rest =>
    rw [partsOf, membersOf, toToml_partOf v, membersOf_partsOf rest]

end

/-! ### a table under construction -/

theorem alter_new (h : name ∉ ps.map (·.1)) (f : Option Part → Option Part) :
    ps.alter name f = (f none).map fun p => ps ++ [(name, p)] := by
  induction ps with
  | nil => rfl
  | cons m ps ih =>
    obtain ⟨k, p⟩ := m
    rw [List.map_cons, List.mem_cons, not_or] at h
    rw [Parts.alter, if_neg (Ne.symm h.1), ih h.2, Option.map_map]
    rfl

theorem alter_last (h : name ∉ ps.map (·.1)) (p : Part) (f : Option Part → Option Part) :
    Parts.alter name f (ps ++ [(name, p)]) = (f (some p)).map fun q => ps ++ [(name, q)] := by
  induction ps with
  | nil =>
    rw [List.nil_append, Parts.alter, if_pos rfl]
    rfl
  | cons m ps ih =>
    obtain ⟨k, q⟩ := m
    rw [List.map_cons, List.mem_cons, not_or] at h
    rw [List.cons_append, Parts.alter, if_neg (Ne.symm h.1), ih h.2, Option.map_map]
    rfl

/-- A table in those around it, the outermost first: each of these is given by its earlier members
and by the name of the one that leads on. -/
def plug : List (Parts × String) → Parts → Parts
  | [], here => here
  | (before, name) :: around, here => before ++ [(name, .table .written (plug around here))]

/-- The names that lead to a table from the outermost one. -/
def pathOf (around : List (Parts × String)) : List String := around.map (·.2)

/-- Each name that leads on is new among those before it. -/
def New (around : List (Parts × String)) : Prop := ∀ a ∈ around, a.2 ∉ a.1.map (·.1)

variable {around : List (Parts × String)}

theorem plug_append (around : List (Parts × String)) (before : Parts) (name : String)
    (here : Parts) : plug (around ++ [(before, name)]) here =
      plug around (before ++ [(name, .table .written here)]) := by
  induction around with
  | nil => rfl
  | cons a around ih =>
    obtain ⟨before', name'⟩ := a
    rw [List.cons_append, plug, ih, plug]

/-- Names lead to the table that they were made of. -/
theorem within_plug (h : New around) (f : Parts → Option Parts) (here : Parts) :
    (plug around here).within f (pathOf around) = (f here).map (plug around) := by
  induction around with
  | nil => exact (Option.map_id' (x := f here)).symm
  | cons a around ih =>
    obtain ⟨before, name⟩ := a
    obtain ⟨hname, hmore⟩ := List.forall_mem_cons.mp h
    show Parts.within f (name :: pathOf around)
      (before ++ [(name, .table .written (plug around here))]) = _
    rw [Parts.within, alter_last hname]
    dsimp only
    rw [ih hmore, Option.map_map, Option.map_map]
    rfl

/-! ### statements -/

theorem take_pair (h : New around) (hname : name ∉ here.map (·.1)) (v : Toml) :
    take (pathOf around) (plug around here) (.pair [name] v) =
      some (pathOf around, plug around (here ++ [(name, .value v)])) := by
  rw [take, within_plug h, Parts.put, if_pos rfl, alter_new hname]
  rfl

theorem take_header (h : New around) (hname : name ∉ here.map (·.1)) (place : List String) :
    take place (plug around here) (.header (pathOf around ++ [name])) =
      some (pathOf around ++ [name], plug (around ++ [(here, name)]) []) := by
  rw [take, List.getLast?_concat, List.dropLast_concat, Option.bind_some, within_plug h,
    Parts.openTable, alter_new hname, plug_append]
  rfl

theorem takeAll_cons {place place' : List String} {ps ps' : Parts} {statement : Statement}
    (h : take place ps statement = some (place', ps')) (more : List Statement) :
    takeAll place ps (statement :: more) = takeAll place' ps' more := by
  rw [takeAll, h]
  rfl

/-- Names that are new stay so when another one is added. -/
theorem new_concat (hnew : ∀ m ∈ ms, m.1 ∉ here.map (·.1)) (hname : name ∉ ms.map (·.1))
    (p : Part) : ∀ m ∈ ms, m.1 ∉ (here ++ [(name, p)]).map (·.1) := by
  intro m hm hmem
  rw [List.map_append, List.mem_append] at hmem
  rcases hmem with hmem | hmem
  · exact hnew m hm hmem
  · have hsame : m.1 = name := List.mem_singleton.mp hmem
    exact hname (hsame ▸ List.mem_map_of_mem hm)

/-- **The statements of a table build it, behind what is there, and others go on from there.** -/
theorem takeAll_written (hms : Regular d ms) (h : New around)
    (hnew : ∀ m ∈ ms, m.1 ∉ here.map (·.1)) {place : List String}
    (hplace : place = pathOf around ∨ ∀ m ∈ ms, isTable m.2 = true) (more : List Statement) :
    ∃ place',
      takeAll place (plug around here) (pairs ms ++ (headers (pathOf around) ms ++ more)) =
        takeAll place' (plug around (here ++ partsOf ms)) more := by
  -- what stands before the headers matters to simple values alone, and tables come last
  induction hms generalizing around here place more with
  | nil =>
    refine ⟨place, ?_⟩
    rw [pairs, headers, partsOf, List.append_nil]
    rfl
  | @simple d name v ms hv hname _ ih =>
    obtain ⟨hhere, hnew'⟩ := List.forall_mem_cons.mp hnew
    have hpart : partsOf ((name, v) :: ms) = (name, .value v) :: partsOf ms := by
      cases hv <;> rfl
    obtain rfl : place = pathOf around := by
      rcases hplace with hplace | htables
      · exact hplace
      · have hv' := htables (name, v) List.mem_cons_self
        cases hv <;> cases hv'
    obtain ⟨place', hmore⟩ := ih h (new_concat hnew' hname _) (.inl rfl) more
    refine ⟨place', ?_⟩
    rw [pairs_cons hv, headers_cons hv, List.cons_append, takeAll_cons (take_pair h hhere v), hmore,
      hpart, List.append_assoc]
    rfl
  | @table d name inner ms _ hname htables _ ihinner ih =>
    have hhere : name ∉ here.map (·.1) := hnew _ List.mem_cons_self
    have hnew' : ∀ m ∈ ms, m.1 ∉ here.map (·.1) := fun m hm =>
      hnew m (List.mem_cons_of_mem _ hm)
    have hpath : pathOf (around ++ [(here, name)]) = pathOf around ++ [name] := by
      rw [pathOf, List.map_append]
      rfl
    have haround : New (around ++ [(here, name)]) := by
      intro a ha
      rcases List.mem_append.mp ha with ha | ha
      · exact h a ha
      · rw [List.mem_singleton.mp ha]
        exact hhere
    have hnone : ∀ m ∈ inner, m.1 ∉ ([] : Parts).map (·.1) := fun _ _ => List.not_mem_nil
    obtain ⟨place', hinner⟩ := ihinner haround hnone (.inl rfl)
      (headers (pathOf around) ms ++ more)
    rw [hpath, List.nil_append, plug_append around here name (partsOf inner)] at hinner
    have htable := new_concat hnew' hname (.table .written (partsOf inner))
    obtain ⟨place'', hmore⟩ : ∃ place'', takeAll place' _ _ = takeAll place'' _ _ :=
      ih h htable (.inr htables) more
    rw [pairs_tables htables, List.nil_append] at hmore
    refine ⟨place'', ?_⟩
    rw [pairs, pairs_tables htables, headers, partsOf, partOf]
    simp only [List.nil_append, List.cons_append, List.append_assoc]
    rw [takeAll_cons (take_header h hhere place), hinner, hmore, List.append_assoc]
    rfl

/-- **A document is read back as it was written.** -/
theorem readDocument_writeDocument (h : Regular d ms) (hfew : d ≤ maxNames) :
    readDocument (writeDocument ms) = some ms := by
  have hroot : New [] := fun _ ha => nomatch ha
  have hhere : ∀ m ∈ ms, m.1 ∉ ([] : Parts).map (·.1) := fun _ _ => List.not_mem_nil
  obtain ⟨place, htake⟩ := takeAll_written h hroot hhere (.inl rfl) []
  rw [List.append_nil] at htake
  have hbuilt : takeAll [] [] (pairs ms ++ headers [] ms) = some (partsOf ms) := htake
  rw [readDocument, readStatements_writeDocument h hfew, Option.bind_some, hbuilt, Option.map_some,
    membersOf_partsOf]

end TelemetryGate.Toml
