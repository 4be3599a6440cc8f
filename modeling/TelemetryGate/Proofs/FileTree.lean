import TelemetryGate.FileTree

/-!
# What files keep

Nothing that stands somewhere is lost by making directories, or by putting nothing after a file.

* `FileTree.Kept`             what stood somewhere stands there still;
* `FileTree.kept_makeDirs`    so it is when directories are made, whether or not all of them can be;
* `FileTree.kept_append`      and when a file is opened;
* `FileTree.isFile_append`    which is there from then on.
-/

namespace TelemetryGate.FileTree

variable {t t' t'' : FileTree} {place start : Place} {e : Entry} {steps more : List String}

/-! ### what stands at a place -/

theorem at?_set_self (h : place ≠ []) (e : Entry) (t : FileTree) :
    (t.set place e).at? place = some e := by
  rw [at?, if_neg h]
  exact List.lookup_cons_self

theorem at?_set_of_ne {other : Place} (h : other ≠ place) (e : Entry) (t : FileTree) :
    (t.set place e).at? other = t.at? other := by
  have hlookup : ∀ entries : List (Place × Entry),
      (entries.filter (·.1 ≠ place)).lookup other = entries.lookup other := fun entries => by
    induction entries with
    | nil => rfl
    | cons entry entries ih =>
      obtain ⟨p, v⟩ := entry
      by_cases hp : p = place
      · have hother : (other == p) = false := by
          rw [hp]
          exact beq_eq_false_iff_ne.mpr h
        rw [List.filter_cons, if_neg (by simpa using hp), ih, List.lookup_cons, hother]
      · rw [List.filter_cons, if_pos (by simpa using hp), List.lookup_cons, List.lookup_cons, ih]
  unfold at?
  by_cases hroot : other = []
  · rw [if_pos hroot, if_pos hroot]
  · rw [if_neg hroot, if_neg hroot]
    show ((place, e) :: t.entries.filter (·.1 ≠ place)).lookup other = _
    rw [List.lookup_cons, beq_eq_false_iff_ne.mpr h]
    exact hlookup t.entries

/-! ### nothing is lost -/

/-- What stood somewhere stands there still. -/
def Kept (t t' : FileTree) : Prop :=
  ∀ place e, t.at? place = some e → t'.at? place = some e

theorem Kept.refl (t : FileTree) : t.Kept t := fun _ _ h => h

theorem Kept.trans (h : t.Kept t') (h' : t'.Kept t'') : t.Kept t'' :=
  fun place e he => h' place e (h place e he)

/-- Nothing is lost where nothing else stood before. -/
theorem kept_set (h : ∀ e', t.at? place = some e' → e' = e) : t.Kept (t.set place e) := by
  intro other e' he'
  by_cases hother : other = place
  · subst hother
    obtain rfl := h e' he'
    by_cases hroot : other = []
    · subst hroot
      exact he'
    · exact at?_set_self hroot e' t
  · rw [at?_set_of_ne hother]
    exact he'

theorem kept_makeDir (h : t.makeDir start steps = .ok t') : t.Kept t' := by
  unfold makeDir at h
  split at h
  · cases h
  · cases h
  · next place _ =>
    split at h
    · cases h
    · next hnone =>
      cases h
      exact kept_set fun e' he' => nomatch hnone.symm.trans he'

theorem Made.kept_ofDir (start : Place) (steps : List String) (t : FileTree) :
    t.Kept (Made.ofDir start steps t).files := by
  unfold Made.ofDir
  split
  · next t' hmade => exact kept_makeDir hmade
  · exact .refl t

theorem kept_makeAlong (start : Place) (t : FileTree) (steps : List String) :
    t.Kept (makeAlong start t steps).files := by
  induction steps with
  | nil => exact .refl t
  | cons step before ih =>
    unfold makeAlong
    dsimp only
    split
    · exact Made.kept_ofDir _ _ _
    · split
      · exact ih
      · exact ih.trans (Made.kept_ofDir _ _ _)

/-- Directories that are made take the place of nothing, whatever comes of it. -/
theorem kept_makeDirs (t : FileTree) (p : Path) : t.Kept (t.makeDirs p).files :=
  kept_makeAlong _ _ _

/-! ### a file that is opened -/

/-- A file is put where there is none or one that has its bytes. -/
theorem append_nil_eq_ok {p : Path} (h : t.append [] p = .ok t') :
    p ≠ "" ∧ p.endsInSlash = false ∧ ∃ place bytes, t.room (t.start p) p.steps = .ok (some place) ∧
      (∀ e, t.at? place = some e → e = .file bytes) ∧ t' = t.set place (.file bytes) := by
  unfold append at h
  split at h
  · cases h
  · next hp =>
    split at h
    · cases h
    · cases h
    · next place hroom =>
      split at h
      · cases h
      · next hslash =>
        refine ⟨hp, Bool.eq_false_iff.mpr hslash, place, ?_⟩
        split at h
        · cases h
        · next before hat =>
          rw [List.append_nil] at h
          cases h
          exact ⟨before, hroom, fun e he => (Option.some.inj (hat.symm.trans he)).symm, rfl⟩
        · next hat =>
          cases h
          refine ⟨[], hroom, fun e he => ?_, rfl⟩
          cases hat.symm.trans he

theorem kept_append {p : Path} (h : t.append [] p = .ok t') : t.Kept t' := by
  obtain ⟨_, _, place, bytes, _, hat, rfl⟩ := append_nil_eq_ok h
  exact kept_set hat

theorem walk_append (t : FileTree) (start : Place) (steps more : List String) :
    t.walk start (steps ++ more) = (t.walk start steps).bind fun place => t.walk place more := by
  induction steps generalizing start with
  | nil => rfl
  | cons step steps ih =>
    rw [List.cons_append, walk, walk]
    split
    · rfl
    · rfl
    · exact ih _

/-- A way that leads through directories still does if nothing is lost. -/
theorem Kept.walk (h : t.Kept t') (hwalk : t.walk start steps = .ok place) :
    t'.walk start steps = .ok place := by
  induction steps generalizing start with
  | nil => exact hwalk
  | cons step steps ih =>
    rw [FileTree.walk] at hwalk ⊢
    split at hwalk
    · cases hwalk
    · cases hwalk
    · next hat =>
      rw [h _ _ hat]
      exact ih hwalk

/-- Room is in a directory that is there, under the last name of the way. -/
theorem room_eq_ok (h : t.room start steps = .ok (some place)) :
    ∃ way name dir, steps = way ++ [name] ∧ name ≠ "." ∧ name ≠ ".." ∧
      t.walk start way = .ok dir ∧ t.at? dir = some .directory ∧ place = dir ++ [name] := by
  unfold room at h
  split at h
  · cases h
  · next name hlast =>
    obtain ⟨way, rfl⟩ := List.getLast?_eq_some_iff.mp hlast
    rw [List.dropLast_concat, walk_append] at h
    cases hway : t.walk start way with
    | error e =>
      rw [hway] at h
      cases h
    | ok dir =>
      rw [hway] at h
      change (t.walk dir ["."]).map _ = _ at h
      rw [walk] at h
      cases hat : t.at? dir with
      | none =>
        rw [hat] at h
        cases h
      | some entry =>
        rw [hat] at h
        cases entry with
        | file bytes => cases h
        | directory =>
          change .ok (if (name = "." || name = "..") = true then none else some (dir ++ [name])) =
            Except.ok _ at h
          by_cases hdots : (name = "." || name = "..") = true
          · rw [if_pos hdots] at h
            cases h
          · rw [if_neg hdots] at h
            rw [Bool.or_eq_true, not_or, decide_eq_true_eq, decide_eq_true_eq] at hdots
            cases h
            exact ⟨way, name, dir, rfl, hdots.1, hdots.2, hway, hat, rfl⟩

/-- A file that could be opened is there. -/
theorem isFile_append {p : Path} (h : t.append [] p = .ok t') : t'.isFile p = true := by
  have hkept := kept_append h
  obtain ⟨hp, hslash, place, bytes, hroom, _, rfl⟩ := append_nil_eq_ok h
  obtain ⟨way, name, dir, hsteps, hdot, hdots, hway, hdir, rfl⟩ := room_eq_ok hroom
  have hlocate : (t.set (dir ++ [name]) (.file bytes)).locate p = .ok (dir ++ [name]) := by
    rw [locate, if_neg hp, hslash, hsteps]
    show walk _ (t.start p) (way ++ [name] ++ []) = _
    rw [List.append_nil, walk_append, hkept.walk hway]
    show walk _ dir [name] = _
    rw [walk, hkept dir _ hdir]
    dsimp only
    rw [walk, if_neg hdot, if_neg hdots]
  rw [isFile, look, hlocate]
  dsimp only
  rw [at?_set_self (List.append_ne_nil_of_right_ne_nil _ (List.cons_ne_nil _ _))]

end TelemetryGate.FileTree
