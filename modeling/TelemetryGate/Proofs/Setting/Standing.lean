import TelemetryGate.Proofs.Members
import TelemetryGate.Setting

/-!
# What stands where

A layer is what its leaves say one after another: each of them gives a value to the end of a way
through tables, makes tables of what lies on the way to it, and takes away what lay beyond it.

* `Setting.at?`, `standing`   what a way leads to;
* `Leaf`, `Layer.leaves`      values with the ways to them;
* `Leaf.touch`                what a leaf makes of what stands somewhere;
* `Overlays`                  a change that comes to what leaves say, and keeps tables in order;
* `overlay_overlays`          putting a layer over others is one.
-/

namespace TelemetryGate

/-! ### ways -/

/-- What a way leads to. -/
inductive Standing where
  | nothing
  | table
  | value (v : Setting)

def Standing.of : Option Setting → Standing
  | none => nothing
  | some (.table _ _) => table
  | some v => value v

namespace Setting

/-- What lies at the end of a way; its names are in lower case. -/
def at? : List String → Setting → Option Setting
  | [], s => some s
  | name :: way, s => (Members.find? name s.members).bind (at? way)

def standing (way : List String) (s : Setting) : Standing := .of (s.at? way)

variable {s v : Setting} {way : List String} {name : String}

theorem at?_of_members_nil (h : s.members = []) (name : String) (way : List String) :
    s.at? (name :: way) = none := by
  rw [at?, h]
  rfl

theorem at?_append (s : Setting) (way way' : List String) :
    s.at? (way ++ way') = (s.at? way).bind (at? way') := by
  induction way generalizing s with
  | nil => rfl
  | cons name way ih =>
    show (Members.find? name s.members).bind (at? (way ++ way')) =
      ((Members.find? name s.members).bind (at? way)).bind (at? way')
    rw [Option.bind_assoc]
    exact congrArg _ (funext ih)

/-- Where no value stands, there is a table or nothing. -/
theorem at?_of_standing (h : ∀ v, s.standing way ≠ .value v) :
    s.at? way = none ∨ ∃ ms origin, s.at? way = some (.table ms origin) := by
  unfold standing at h
  cases hat : s.at? way with
  | none => exact .inl rfl
  | some v =>
    rw [hat] at h
    cases v with
    | single v origin => exact absurd rfl (h _)
    | list vs origin => exact absurd rfl (h _)
    | table ms origin => exact .inr ⟨ms, origin, rfl⟩

theorem at?_withMember (n : String) (way : List String) (s : Setting) (name : String)
    (v : Setting) :
    (s.withMember name v).at? (n :: way) =
      if n = Text.lower name then v.at? way else s.at? (n :: way) := by
  show (Members.find? n (Members.insert (Text.lower name) v s.members)).bind (at? way) = _
  by_cases hn : n = Text.lower name
  · rw [if_pos hn, hn, Members.find?_insert_self]
    rfl
  · rw [if_neg hn, Members.find?_insert_of_ne hn]
    rfl

/-- The names of every table ascend. -/
inductive Tidy : Setting → Prop
  | single (v : Scalar) (origin : Option String) : Tidy (.single v origin)
  | list (items : List Setting) (origin : Option String) : Tidy (.list items origin)
  | table {ms : List (String × Setting)} (origin : Option String) (sorted : Members.Sorted ms)
    (all : ∀ m ∈ ms, Tidy m.2) : Tidy (.table ms origin)

theorem tidy_empty : Tidy (.table [] none) := .table none Members.sorted_nil fun _ hm => nomatch hm

theorem Tidy.members (h : s.Tidy) : Members.Sorted s.members ∧ ∀ m ∈ s.members, m.2.Tidy := by
  cases h with
  | single v origin => exact ⟨Members.sorted_nil, fun _ hm => nomatch hm⟩
  | list items origin => exact ⟨Members.sorted_nil, fun _ hm => nomatch hm⟩
  | table origin sorted all => exact ⟨sorted, all⟩

theorem Tidy.withMember (h : s.Tidy) (hv : v.Tidy) (name : String) :
    (s.withMember name v).Tidy := by
  obtain ⟨hsorted, hall⟩ := h.members
  refine .table _ (hsorted.insert _ v) fun m hm => ?_
  rcases Members.mem_insert hm with rfl | hm
  · exact hv
  · exact hall m hm

theorem Tidy.at? (h : s.Tidy) (hv : s.at? way = some v) : v.Tidy := by
  induction way generalizing s with
  | nil =>
    cases hv
    exact h
  | cons name way ih =>
    obtain ⟨t, ht, hv⟩ := Option.bind_eq_some_iff.mp hv
    exact ih (h.members.2 _ (Members.mem_of_find? ht)) hv

end Setting

/-! ### leaves -/

/-- A value and the way to it. -/
structure Leaf where
  way : List String
  value : Setting

namespace Leaf

/-- The leaf seen from further out. -/
def under (way : List String) (l : Leaf) : Leaf := { l with way := way ++ l.way }

/-- What the value makes of what stands in its place: a table merges with a table, and with anything
else if it is empty. -/
def replace : Setting → Standing → Standing
  | .table _ _, .nothing => .table
  | .table _ _, there => there
  | v, _ => .value v

/-- What the value makes of what stands beyond its place. -/
def cover : Setting → Standing → Standing
  | .table _ _, there => there
  | _, _ => .nothing

/-- What a value at the end of a way makes of what stands at the end of another. -/
def touchAt (v : Setting) : List String → List String → Standing → Standing
  | [], [], there => replace v there
  | [], _ :: _, _ => .table
  | _ :: _, [], there => cover v there
  | n :: way, m :: path, there => if n = m then touchAt v way path there else there

/-- What a leaf makes of what stands at the end of a way. -/
def touch (way : List String) (there : Standing) (l : Leaf) : Standing :=
  touchAt l.value way l.way there

end Leaf

mutual

/-- The leaves of a setting; an empty table is one. -/
def Setting.leaves : Setting → List Leaf
  | .table [] origin => [⟨[], .table [] origin⟩]
  | .table (m :: ms) _ => leavesOf (m :: ms)
  | .single v origin => [⟨[], .single v origin⟩]
  | .list vs origin => [⟨[], .list vs origin⟩]

def Setting.leavesOf : List (String × Setting) → List Leaf
  | [] => []
  | (name, v) :: rest => v.leaves.map (.under [Text.lower name]) ++ leavesOf rest

end

/-- The names that steps are, unless one of them leads into a list. -/
def Step.names? : List Step → Option (List String)
  | [] => some []
  | .name s :: rest => (names? rest).map (Text.lower s :: ·)
  | .index _ :: _ => none

/-- The way that the name of a member spells, unless it leads into a list. -/
def Layer.way? (name : String) : Option (List String) :=
  match Step.ofText? name with
  | some steps => Step.names? steps
  | none => some [Text.lower name]

/-- The leaves of a layer; what leads into a list is a leaf at the end of no way. -/
def Layer.leaves (layer : Layer) : List Leaf :=
  layer.flatMap fun m =>
    match way? m.1 with
    | some way => m.2.leaves.map (.under way)
    | none => [⟨[], m.2⟩]

/-! ### changes -/

section
variable {way : List String} {name : String} {there there' : Standing} {ls ls' : List Leaf}

theorem Leaf.touch_under (n : String) (way : List String) (m : String) (there : Standing)
    (l : Leaf) :
    (l.under [m]).touch (n :: way) there = if n = m then l.touch way there else there := rfl

theorem Leaf.foldl_under (n : String) (way : List String) (m : String) (there : Standing)
    (ls : List Leaf) :
    (ls.map (Leaf.under [m])).foldl (Leaf.touch (n :: way)) there =
      if n = m then ls.foldl (Leaf.touch way) there else there := by
  induction ls generalizing there with
  | nil => exact (ite_self there).symm
  | cons l ls ih =>
    rw [List.map_cons, List.foldl_cons, ih, List.foldl_cons, touch_under]
    by_cases hn : n = m
    · rw [if_pos hn, if_pos hn, if_pos hn]
    · rw [if_neg hn, if_neg hn, if_neg hn]

/-- Leaves that lie further in make a table of what they start from. -/
theorem Leaf.foldl_nil (hne : ls ≠ []) (h : ∀ l ∈ ls, l.way ≠ []) (there : Standing) :
    ls.foldl (Leaf.touch []) there = .table := by
  have hone : ∀ l : Leaf, l.way ≠ [] → ∀ there, Leaf.touch [] there l = .table := by
    intro l hl there
    obtain ⟨n, way, hway⟩ := List.exists_cons_of_ne_nil hl
    rw [touch, hway, touchAt]
  induction ls generalizing there with
  | nil => exact absurd rfl hne
  | cons l ls ih =>
    obtain ⟨hl, hrest⟩ := List.forall_mem_cons.mp h
    rw [List.foldl_cons, hone l hl]
    cases ls with
    | nil => rfl
    | cons l' ls => exact ih (List.cons_ne_nil _ _) hrest _

end

/-- A change that comes to what some leaves say one after another, and keeps tables in order. -/
structure Overlays (change : Setting → Setting) (ls : List Leaf) : Prop where
  standing : ∀ way root,
    (change root).standing way = ls.foldl (Leaf.touch way) (root.standing way)
  tidy : ∀ root, root.Tidy → (change root).Tidy

/-- Leaves that lie beyond where they are seen from; there are some. -/
def Beyond (ls : List Leaf) : Prop := ls ≠ [] ∧ ∀ l ∈ ls, l.way ≠ []

section
variable {f g : Setting → Setting} {ls ls' : List Leaf} {v : Setting}

theorem beyond_under (h : ls ≠ []) {way : List String} (hway : way ≠ []) :
    Beyond (ls.map (.under way)) := by
  refine ⟨fun hnil => h (List.map_eq_nil_iff.mp hnil), fun l hl => ?_⟩
  obtain ⟨l, _, rfl⟩ := List.mem_map.mp hl
  exact fun hnil => hway (List.append_eq_nil_iff.mp hnil).1

theorem Overlays.id : Overlays id [] := ⟨fun _ _ => rfl, fun _ h => h⟩

theorem Overlays.comp (hf : Overlays f ls) (hg : Overlays g ls') :
    Overlays (g ∘ f) (ls ++ ls') := by
  refine ⟨fun way root => ?_, fun root h => hg.tidy _ (hf.tidy root h)⟩
  rw [List.foldl_append, ← hf.standing]
  exact hg.standing way (f root)

/-- A member that is changed: what was there before, if anything was, changes as it would alone. -/
theorem Overlays.withMember (name : String) {change : Option Setting → Setting}
    (hstanding : ∀ way here,
      (change here).standing way = ls.foldl (Leaf.touch way) (.of (here.bind (Setting.at? way))))
    (htidy : ∀ here, (∀ v ∈ here, Setting.Tidy v) → (change here).Tidy) (hne : ls ≠ []) :
    Overlays (fun root => root.withMember name (change (root.member? name)))
      (ls.map (.under [Text.lower name])) := by
  constructor
  · intro way root
    cases way with
    | nil =>
      obtain ⟨hne', hbeyond⟩ := beyond_under hne (List.cons_ne_nil (Text.lower name) [])
      rw [Leaf.foldl_nil hne' hbeyond]
      rfl
    | cons n way =>
      rw [Leaf.foldl_under, Setting.standing, Setting.at?_withMember]
      by_cases hn : n = Text.lower name
      · rw [if_pos hn, if_pos hn, hn]
        exact hstanding way (root.member? name)
      · rw [if_neg hn, if_neg hn]
        rfl
  · intro root hroot
    refine hroot.withMember (htidy _ fun v hv => ?_) name
    exact hroot.members.2 _ (Members.mem_of_find? hv)

/-- A change of what was there before, or else of something that has no members. -/
theorem Overlays.getD (hf : Overlays f ls) (hbeyond : Beyond ls) {b : Setting}
    (hnone : b.members = []) (htidy : b.Tidy) :
    (∀ way (here : Option Setting), (f (here.getD b)).standing way =
        ls.foldl (Leaf.touch way) (.of (here.bind (Setting.at? way)))) ∧
      ∀ here : Option Setting, (∀ v ∈ here, Setting.Tidy v) → (f (here.getD b)).Tidy := by
  constructor
  · intro way here
    rw [hf.standing]
    cases here with
    | some v => rfl
    | none =>
      cases way with
      | nil => rw [Leaf.foldl_nil hbeyond.1 hbeyond.2, Leaf.foldl_nil hbeyond.1 hbeyond.2]
      | cons n way =>
        rw [Setting.standing, Option.getD_none, Setting.at?_of_members_nil hnone]
        rfl
  · intro here hhere
    cases here with
    | none => exact hf.tidy _ htidy
    | some v => exact hf.tidy _ (hhere v rfl)

end

/-! ### layers -/

namespace Setting

theorem leaves_ne_nil (s : Setting) : s.leaves ≠ [] := by
  match s with
  | .single v origin => exact List.cons_ne_nil _ _
  | .list vs origin => exact List.cons_ne_nil _ _
  | .table [] origin => exact List.cons_ne_nil _ _
  | .table ((name, v) :: ms) origin =>
    rw [leaves, leavesOf]
    exact List.append_ne_nil_of_left_ne_nil (mt List.map_eq_nil_iff.mp (leaves_ne_nil v)) _

theorem leavesOf_beyond (m : String × Setting) (ms : List (String × Setting)) :
    Beyond (leavesOf (m :: ms)) := by
  have hall : ∀ ms : List (String × Setting), ∀ l ∈ leavesOf ms, l.way ≠ [] := by
    intro ms
    induction ms with
    | nil => exact fun l hl => nomatch hl
    | cons m ms ih =>
      obtain ⟨name, v⟩ := m
      intro l hl
      rcases List.mem_append.mp hl with hl | hl
      · exact (beyond_under (leaves_ne_nil v) (List.cons_ne_nil _ _)).2 l hl
      · exact ih l hl
  refine ⟨?_, hall (m :: ms)⟩
  obtain ⟨name, v⟩ := m
  exact List.append_ne_nil_of_left_ne_nil (mt List.map_eq_nil_iff.mp (leaves_ne_nil v)) _

/-- An empty table makes a table where nothing stands, and changes nothing else. -/
theorem standing_getD_empty (way : List String) (here : Option Setting) (origin : Option String) :
    (here.getD (.table [] none)).standing way =
      Leaf.touch way (.of (here.bind (at? way))) ⟨[], .table [] origin⟩ := by
  cases way with
  | nil =>
    cases here with
    | none => rfl
    | some v => cases v <;> rfl
  | cons n way => cases here <;> rfl

/-- What merges with nothing stands in place of what was there. -/
theorem withMember_overlays (name : String) {v : Setting} (htidy : v.Tidy)
    (h : ∀ way there, v.standing way = Leaf.touch way there ⟨[], v⟩) :
    Overlays (fun root => root.withMember name v) [⟨[Text.lower name], v⟩] := by
  have hstanding : ∀ way (here : Option Setting), v.standing way =
      [⟨[], v⟩].foldl (Leaf.touch way) (.of (here.bind (at? way))) := fun way _ => h way _
  exact .withMember name hstanding (fun _ _ => htidy) (List.cons_ne_nil _ _)

mutual

theorem assign_overlays (name : String) (value : Setting) :
    Overlays (assign name value) (value.leaves.map (.under [Text.lower name])) := by
  match value with
  | .single v origin =>
    have hassign : assign name (.single v origin) =
        fun root => root.withMember name (.single v origin) := by
      funext root
      rw [assign]
    rw [hassign]
    exact withMember_overlays name (.single v origin) fun way there => by cases way <;> rfl
  | .list vs origin =>
    have hassign : assign name (.list vs origin) =
        fun root => root.withMember name (.list vs origin) := by
      funext root
      rw [assign]
    rw [hassign]
    exact withMember_overlays name (.list vs origin) fun way there => by cases way <;> rfl
  | .table [] origin =>
    have hassign : assign name (.table [] origin) = fun root =>
        root.withMember name ((root.member? name).getD (.table [] none)) := by
      funext root
      rw [assign, assignAll]
    have htidy : ∀ here : Option Setting, (∀ v ∈ here, Tidy v) →
        (here.getD (.table [] none)).Tidy := by
      intro here hhere
      cases here with
      | none => exact tidy_empty
      | some v => exact hhere v rfl
    have hstanding : ∀ way (here : Option Setting), (here.getD (.table [] none)).standing way =
        [⟨[], .table [] origin⟩].foldl (Leaf.touch way) (.of (here.bind (at? way))) :=
      fun way here => standing_getD_empty way here origin
    rw [hassign]
    exact .withMember name hstanding htidy (List.cons_ne_nil _ _)
  | .table (m :: ms) origin =>
    have hassign : assign name (.table (m :: ms) origin) = fun root =>
        root.withMember name (assignAll (m :: ms) ((root.member? name).getD (.table [] none))) := by
      funext root
      rw [assign]
    have hbeyond := leavesOf_beyond m ms
    obtain ⟨hstanding, htidy⟩ :=
      (assignAll_overlays (m :: ms)).getD hbeyond (b := .table [] none) rfl tidy_empty
    rw [hassign]
    exact .withMember name hstanding htidy hbeyond.1

theorem assignAll_overlays (ms : List (String × Setting)) :
    Overlays (assignAll ms) (leavesOf ms) := by
  match ms with
  | [] =>
    have hassign : assignAll [] = id := by
      funext root
      rw [assignAll]
      rfl
    rw [hassign]
    exact .id
  | (name, value) :: rest =>
    have hassign : assignAll ((name, value) :: rest) = assignAll rest ∘ assign name value := by
      funext root
      rw [assignAll]
      rfl
    rw [hassign]
    exact (assign_overlays name value).comp (assignAll_overlays rest)

end

/-! ### steps -/

variable {steps : List Step} {way : List String}

theorem names?_cons {t : Step} {rest : List Step} (h : Step.names? (t :: rest) = some way) :
    ∃ name way', t = .name name ∧ Step.names? rest = some way' ∧ way = Text.lower name :: way' := by
  cases t with
  | name name =>
    obtain ⟨way', hrest, rfl⟩ := Option.map_eq_some_iff.mp h
    exact ⟨name, way', rfl, hrest, rfl⟩
  | index n => cases h

theorem assignAt_overlays (value : Setting) (h : Step.names? steps = some way)
    (hne : steps ≠ []) : Overlays (assignAt value steps) (value.leaves.map (.under way)) := by
  induction steps generalizing way with
  | nil => exact absurd rfl hne
  | cons t rest ih =>
    obtain ⟨name, way', rfl, hrest, rfl⟩ := names?_cons h
    cases rest with
    | nil =>
      cases hrest
      have hassign : assignAt value [.name name] = assign name value := by
        funext root
        rw [assignAt]
      rw [hassign]
      exact assign_overlays name value
    | cons t' rest =>
      have hassign : assignAt value (.name name :: t' :: rest) = fun root =>
          root.withMember name
            (assignAt value (t' :: rest) ((root.member? name).getD (ofScalar .nothing))) := by
        funext root
        rw [assignAt]
        exact fun e => nomatch e
      obtain ⟨_, way'', _, _, hway⟩ := names?_cons hrest
      have hbeyond : Beyond (value.leaves.map (.under way')) := by
        refine beyond_under (leaves_ne_nil value) ?_
        rw [hway]
        exact List.cons_ne_nil _ _
      obtain ⟨hstanding, htidy⟩ := (ih hrest (List.cons_ne_nil _ _)).getD hbeyond
        (b := ofScalar .nothing) rfl (.single _ _)
      have hmap : value.leaves.map (Leaf.under (Text.lower name :: way')) =
          (value.leaves.map (Leaf.under way')).map (Leaf.under [Text.lower name]) := by
        rw [List.map_map]
        rfl
      rw [hassign, hmap]
      exact .withMember name hstanding htidy hbeyond.1

theorem ofText?_ne_nil {name : String} (h : Step.ofText? name = some steps) : steps ≠ [] := by
  unfold Step.ofText? at h
  dsimp only at h
  split at h
  · cases h
  · obtain ⟨rest, _, rfl⟩ := Option.map_eq_some_iff.mp h
    exact List.cons_ne_nil _ _

theorem assignNamed_overlays {m : String × Setting} (h : Layer.way? m.1 = some way) :
    Overlays (fun root => assignNamed root m) (m.2.leaves.map (.under way)) := by
  unfold Layer.way? at h
  unfold assignNamed
  cases hsteps : Step.ofText? m.1 with
  | none =>
    rw [hsteps] at h
    cases h
    exact assign_overlays m.1 m.2
  | some steps =>
    rw [hsteps] at h
    exact assignAt_overlays m.2 h (ofText?_ne_nil hsteps)

/-- **A layer that leads into no list, put over others, comes to what its leaves say.** -/
theorem overlay_overlays {layer : Layer} (h : ∀ l ∈ layer.leaves, l.way ≠ []) :
    Overlays (overlay · layer) layer.leaves := by
  induction layer with
  | nil => exact .id
  | cons m rest ih =>
    unfold Layer.leaves at h ⊢
    rw [List.flatMap_cons] at h ⊢
    cases hway : Layer.way? m.1 with
    | none =>
      rw [hway] at h
      exact absurd rfl (h ⟨[], m.2⟩ (List.mem_append_left _ (List.mem_singleton_self _)))
    | some way =>
      exact (assignNamed_overlays hway).comp (ih fun l hl => h l (List.mem_append_right _ hl))

end Setting

end TelemetryGate
