import TelemetryGate.Proofs.Json.Regular
import TelemetryGate.Proofs.Settings.Objects
import TelemetryGate.Setting.Source

/-!
# Tables in order

However layers are put over one another, and whatever lists they lead into, the names of every table
ascend, so that none comes twice.

* `Setting.Ordered.overlay`   putting a layer in order over others keeps that;
* `Layer.Ordered.ofFile`      what a file gives is in order;
* `Setting.toRecord_keeps`    what every slot keeps holds of a record made of a setting in order.
-/

namespace TelemetryGate

theorem Json.readWhole_ok {α : Type} {read : Reader α} {s : List UInt8} {v : α}
    (h : readWhole read s = .ok v) : ∃ r, read s = .ok r ∧ r.value = v := by
  rw [readWhole] at h
  cases hread : read s with
  | error f =>
    rw [hread] at h
    cases h
  | ok r =>
    rw [hread] at h
    dsimp only at h
    split at h
    · exact ⟨r, rfl, Except.ok.inj h⟩
    · cases h

namespace Setting

variable {s v : Setting} {name : String} {origin : Option String}

theorem ordered_empty : Ordered (.table [] origin) :=
  .table origin Members.sorted_nil fun _ hm => nomatch hm

namespace Ordered

theorem members (h : s.Ordered) : Members.Sorted s.members ∧ ∀ m ∈ s.members, m.2.Ordered := by
  cases h with
  | single v origin => exact ⟨Members.sorted_nil, fun _ hm => nomatch hm⟩
  | list origin all => exact ⟨Members.sorted_nil, fun _ hm => nomatch hm⟩
  | table origin sorted all => exact ⟨sorted, all⟩

theorem items (h : s.Ordered) : ∀ v ∈ s.items, v.Ordered := by
  cases h with
  | single v origin => exact fun _ hv => nomatch hv
  | list origin all => exact all
  | table origin sorted all => exact fun _ hv => nomatch hv

theorem member?_getD (h : s.Ordered) (hv : v.Ordered) (name : String) :
    ((s.member? name).getD v).Ordered := by
  cases hfind : s.member? name with
  | none => exact hv
  | some u => exact h.members.2 _ (Members.mem_of_find? hfind)

theorem withMember (h : s.Ordered) (hv : v.Ordered) (name : String) :
    (s.withMember name v).Ordered := by
  obtain ⟨hsorted, hall⟩ := h.members
  refine .table _ (hsorted.insert _ v) fun m hm => ?_
  rcases Members.mem_insert hm with rfl | hm
  · exact hv
  · exact hall m hm

theorem withItem (h : s.Ordered) (hv : v.Ordered) (i : Nat) : (s.withItem i v).Ordered := by
  refine .list _ fun u hu => ?_
  rcases List.mem_or_eq_of_mem_set hu with hu | rfl
  · rcases List.mem_append.mp hu with hu | hu
    · exact h.items u hu
    · rw [List.eq_of_mem_replicate hu]
      exact .single _ _
  · exact hv

end Ordered

/-! ### layers -/

mutual

theorem Ordered.assign {value s : Setting} (hvalue : value.Ordered) (h : s.Ordered)
    (name : String) : (Setting.assign name value s).Ordered := by
  match value with
  | .single v origin =>
    rw [Setting.assign]
    exact h.withMember (.single v origin) name
  | .list vs origin =>
    rw [Setting.assign]
    exact h.withMember hvalue name
  | .table incoming origin =>
    rw [Setting.assign]
    exact h.withMember
      (Ordered.assignAll hvalue.members.2 (h.member?_getD ordered_empty name)) name

theorem Ordered.assignAll {incoming : List (String × Setting)} {s : Setting}
    (hincoming : ∀ m ∈ incoming, m.2.Ordered) (h : s.Ordered) :
    (Setting.assignAll incoming s).Ordered := by
  match incoming with
  | [] =>
    rw [Setting.assignAll]
    exact h
  | (name, value) :: rest =>
    have hvalue : value.Ordered := hincoming _ List.mem_cons_self
    rw [Setting.assignAll]
    exact Ordered.assignAll (fun m hm => hincoming m (List.mem_cons_of_mem _ hm))
      (Ordered.assign hvalue h name)

end

theorem Ordered.assignAt (hv : v.Ordered) (steps : List Step) (h : s.Ordered) :
    (Setting.assignAt v steps s).Ordered := by
  fun_induction Setting.assignAt v steps s with
  | case1 root => exact h
  | case2 name root => exact hv.assign h name
  | case3 name rest root _ ih =>
    exact h.withMember (ih (h.member?_getD (.single _ _) name)) name
  | case4 n rest root hnone => exact h
  | case5 n rest root i hsome there ih =>
    have hthere : there.Ordered := by
      show (root.items[i]?.getD (ofScalar .nothing)).Ordered
      cases hitem : root.items[i]? with
      | none => exact .single _ _
      | some u => exact h.items u (List.mem_of_getElem? hitem)
    refine h.withItem ?_ i
    split_ifs
    · exact hv
    · exact ih hthere

theorem Ordered.overlay {layer : Layer} (hlayer : ∀ m ∈ layer, m.2.Ordered) (h : s.Ordered) :
    (Setting.overlay s layer).Ordered := by
  induction layer generalizing s with
  | nil => exact h
  | cons m layer ih =>
    obtain ⟨hm, hmore⟩ := List.forall_mem_cons.mp hlayer
    refine ih hmore ?_
    unfold assignNamed
    cases Step.ofText? m.1 with
    | none => exact hm.assign h m.1
    | some steps => exact hm.assignAt steps h

/-! ### files -/

theorem itemsOfJson_eq (origin : Option String) (vs : List Json) :
    itemsOfJson origin vs = vs.map (ofJson origin) := by
  induction vs with
  | nil => rfl
  | cons v vs ih =>
    rw [itemsOfJson, ih]
    rfl

theorem ordered_ofJson {d : Nat} {v : Json} (h : Json.Regular d v) (origin : Option String) :
    (ofJson origin v).Ordered := by
  induction h with
  | null => exact .single _ _
  | flag b => exact .single _ _
  | whole h => exact .single _ _
  | real x => exact .single _ _
  | text s => exact .single _ _
  | @list d items _ ih =>
    rw [ofJson, itemsOfJson_eq]
    refine .list origin fun u hu => ?_
    obtain ⟨v, hv, rfl⟩ := List.mem_map.mp hu
    exact ih v hv
  | @object d ms hsorted _ ih =>
    rw [ofJson, membersOfJson_eq]
    refine .table origin (List.pairwise_map.mpr hsorted) fun m hm => ?_
    obtain ⟨m', hm', rfl⟩ := List.mem_map.mp hm
    exact ih m' hm'

mutual

theorem ordered_ofToml (origin : Option String) (v : Toml) : (ofToml origin v).Ordered := by
  match v with
  | .text s => exact .single _ _
  | .whole n => exact .single _ _
  | .real x => exact .single _ _
  | .flag b => exact .single _ _
  | .moment s => exact .single _ _
  | .list vs =>
    rw [ofToml]
    exact .list origin (ordered_itemsOfToml origin vs)
  | .table ms =>
    obtain ⟨hsorted, hall⟩ := ordered_membersOfToml origin ms
    rw [ofToml]
    exact .table origin hsorted hall

theorem ordered_itemsOfToml (origin : Option String) (vs : List Toml) :
    ∀ u ∈ itemsOfToml origin vs, u.Ordered := by
  match vs with
  | [] => exact fun _ hu => nomatch hu
  | v :: rest =>
    rw [itemsOfToml]
    exact List.forall_mem_cons.mpr ⟨ordered_ofToml origin v, ordered_itemsOfToml origin rest⟩

theorem ordered_membersOfToml (origin : Option String) (ms : List (String × Toml)) :
    Members.Sorted (membersOfToml origin ms) ∧ ∀ m ∈ membersOfToml origin ms, m.2.Ordered := by
  match ms with
  | [] => exact ⟨Members.sorted_nil, fun _ hm => nomatch hm⟩
  | (name, v) :: rest =>
    obtain ⟨hsorted, hall⟩ := ordered_membersOfToml origin rest
    rw [membersOfToml]
    refine ⟨hsorted.insert name _, fun m hm => ?_⟩
    rcases Members.mem_insert hm with rfl | hm
    · exact ordered_ofToml origin v
    · exact hall m hm

end

end Setting

namespace Layer

variable {layer : Layer}

theorem Ordered.ofEnvironment (env : Environment) : Ordered (Layer.ofEnvironment env) := by
  intro m hm
  obtain ⟨v, _, hv⟩ := List.mem_filterMap.mp hm
  unfold settingOfVariable? at hv
  obtain ⟨_, hv⟩ := Option.ite_none_right_eq_some.mp hv
  rw [← Option.some.inj hv]
  exact .single _ _

theorem Ordered.ofText {formats : FileFormats} {format : FileFormat} {origin text : String}
    (h : Layer.ofText formats format origin text = .ok layer) : layer.Ordered := by
  unfold Layer.ofText at h
  cases format with
  | toml =>
    dsimp only at h
    generalize Toml.readDocument text = read at h
    cases read with
    | none => cases h
    | some ms =>
      cases h
      exact (Setting.ordered_membersOfToml _ ms).2
  | json =>
    dsimp only at h
    generalize hread : Json.readWhole (Json.readValue Json.maxDepth) (Utf8.encode text) = read at h
    cases read with
    | error f => cases h
    | ok v =>
      obtain ⟨r, hr, rfl⟩ := Json.readWhole_ok hread
      have hordered := Setting.ordered_ofJson (Json.readValue_regular hr) (some origin)
      generalize r.value = v at h hordered
      cases v with
      | object ms =>
        cases h
        rw [Setting.ofJson] at hordered
        exact hordered.members.2
      | _ => cases h
  | foreign f => exact formats.ordered f origin text layer (Setting.mapError_eq_ok.mp h)

/-- **Whatever a file gives is in order.** -/
theorem Ordered.ofFile {formats : FileFormats} {tree : FileTree} {name : Path}
    (h : Layer.ofFile formats tree name = .ok layer) : layer.Ordered := by
  unfold Layer.ofFile at h
  generalize tree.find formats name = found at h
  cases found with
  | error f => cases h
  | ok file =>
    dsimp only at h
    generalize tree.readText? file.path = read at h
    cases read with
    | error e => cases h
    | ok text =>
      cases text with
      | none => cases h
      | some text => exact .ofText h

end Layer

/-! ### records -/

section
variable {κ : Type} {El : κ → Type} {ρ ν ε : Type} {P : ρ → Prop} {form : Form κ El ρ}
  {fault : Mismatch → ε} {r : ρ}

namespace Form

/-- What storing a value of every slot keeps holds of a record that is filled from members. -/
theorem fillMembers_keeps {convert : String → (k : κ) → ν → Except ε (El k)}
    {ms : List (String × ν)}
    (hstore : ∀ m ∈ ms, ∀ slot ∈ form.slots, ∀ x, convert m.1 slot.kind m.2 = .ok x →
      ∀ record, P record → P (slot.store x record))
    {given : List String} {record : ρ} (hrecord : P record)
    (h : fillMembers fault convert form given record ms = .ok r) : P r := by
  fun_induction fillMembers fault convert form given record ms with
  | case2 given record hmissing =>
    cases h
    exact hrecord
  | case3 given record name v rest hslot ih =>
    exact ih (fun m hm => hstore m (List.mem_cons_of_mem _ hm)) hrecord h
  | case6 given record name v rest slot hslot hnew x hx ih =>
    refine ih (fun m hm => hstore m (List.mem_cons_of_mem _ hm)) ?_ h
    exact hstore _ List.mem_cons_self slot (List.mem_of_find?_eq_some hslot) x hx record hrecord
  | _ => cases h

/-- So it does of one that is filled from items. -/
theorem fillItems_keeps {convert : Nat → (k : κ) → ν → Except ε (El k)} {wanted : String}
    {slots : List (Slot κ El ρ)} {vs : List ν}
    (hstore : ∀ n, ∀ v ∈ vs, ∀ slot ∈ slots, ∀ x, convert n slot.kind v = .ok x →
      ∀ record, P record → P (slot.store x record))
    {n : Nat} {record : ρ} (hrecord : P record) {rest : List ν}
    (h : fillItems fault convert wanted n record slots vs = .ok (r, rest)) : P r := by
  fun_induction fillItems fault convert wanted n record slots vs with
  | case1 n record rest =>
    cases h
    exact hrecord
  | case2 => cases h
  | case3 n record slot slots hrequired ih =>
    exact ih (fun n v hv => nomatch hv) hrecord h
  | case4 => cases h
  | case5 n record slot slots v rest x hx ih =>
    refine ih (fun n u hu slot' hslot => ?_) ?_ h
    · exact hstore n u (List.mem_cons_of_mem _ hu) slot' (List.mem_cons_of_mem _ hslot)
    · exact hstore n v List.mem_cons_self slot List.mem_cons_self x hx record hrecord

end Form

/-- **What storing a value of every slot keeps holds of a record made of a setting in order, be it a
table or a list.** -/
theorem Setting.toRecord_keeps {convert : (k : κ) → Setting → Except SettingFault (El k)}
    (hblank : P form.blank)
    (hstore : ∀ slot ∈ form.slots, ∀ v : Setting, v.Ordered → ∀ x, convert slot.kind v = .ok x →
      ∀ record, P record → P (slot.store x record))
    {s : Setting} (hs : s.Ordered) (h : s.toRecord convert form = .ok r) : P r := by
  cases hs with
  | single v origin => cases h
  | list origin all =>
    obtain ⟨p, hfill, rfl⟩ := Json.map_ok h
    refine Form.fillItems_keeps (fun n v hv slot hslot x hx => ?_) hblank hfill
    exact hstore slot hslot v (all v hv) x (mapError_eq_ok.mp hx)
  | table origin _ all =>
    refine Form.fillMembers_keeps (fun m hm slot hslot x hx => ?_) hblank h
    exact hstore slot hslot m.2 (all m hm) x (mapError_eq_ok.mp hx)

end

end TelemetryGate
