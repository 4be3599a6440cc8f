import TelemetryGate.Proofs.Toml.Value

/-!
# Lines, read back

* `Regular`                      tables of simple values and then of tables, each name once;
* `pairs`, `headers`             the statements of their lines;
* `writeSection`                 a header, and the lines under it;
* `readStatements_cons`          a statement with the end of its line is the first of a document;
* `readStatements_writeDocument` the lines of tables are read back.
-/

namespace TelemetryGate.Toml

variable {c : Char} {t rest : List Char} {d : Nat} {ms : List (String × Toml)}

/-- whether a value is a table -/
def isTable : Toml → Bool
  | .table _ => true
  | _ => false

/-- Members of a table in which others are nested at most so deep: each name comes once, and simple
values come before tables. -/
inductive Regular : Nat → List (String × Toml) → Prop
  | nil {d : Nat} : Regular d []
  | simple {d : Nat} {name : String} {v : Toml} {ms : List (String × Toml)} (hv : Simple v)
    (hname : name ∉ ms.map (·.1)) (more : Regular d ms) : Regular d ((name, v) :: ms)
  | table {d : Nat} {name : String} {inner ms : List (String × Toml)} (hinner : Regular d inner)
    (hname : name ∉ ms.map (·.1)) (htables : ∀ m ∈ ms, isTable m.2 = true)
    (more : Regular (d + 1) ms) : Regular (d + 1) ((name, .table inner) :: ms)

theorem Regular.append {more : List (String × Toml)} (hms : ∀ m ∈ ms, Simple m.2)
    (hnodup : ((ms ++ more).map (·.1)).Nodup) (hmore : Regular d more) :
    Regular d (ms ++ more) := by
  induction ms with
  | nil => exact hmore
  | cons m ms ih =>
    obtain ⟨hm, hms⟩ := List.forall_mem_cons.mp hms
    obtain ⟨hname, hnodup⟩ := List.nodup_cons.mp hnodup
    exact .simple hm hname (ih hms hnodup)

theorem regular_simple (hms : ∀ m ∈ ms, Simple m.2) (hnodup : (ms.map (·.1)).Nodup) :
    Regular d ms := by
  have hregular : Regular d (ms ++ []) := .append hms (by rwa [List.append_nil]) .nil
  rwa [List.append_nil] at hregular

/-! ### statements -/

/-- The statements of the members that are no tables. -/
def pairs : List (String × Toml) → List Statement
  | [] => []
  | (_, .table _) :: rest => pairs rest
  | (k, v) :: rest => .pair [k] v :: pairs rest

/-- The statements of the members that are tables, at the end of a path. -/
def headers (path : List String) : List (String × Toml) → List Statement
  | [] => []
  | (k, .table ms) :: rest =>
    .header (path ++ [k]) :: (pairs ms ++ headers (path ++ [k]) ms ++ headers path rest)
  | (_, _) :: rest => headers path rest

section
variable {name : String} {v : Toml}

theorem pairs_cons (hv : Simple v) : pairs ((name, v) :: ms) = .pair [name] v :: pairs ms := by
  cases hv <;> rw [pairs] <;> exact fun _ h => Toml.noConfusion h

theorem headers_cons (hv : Simple v) (path : List String) :
    headers path ((name, v) :: ms) = headers path ms := by
  cases hv <;> rw [headers] <;> exact fun _ h => Toml.noConfusion h

theorem writeSimple_cons (hv : Simple v) : writeSimple ((name, v) :: ms) =
    writeName name ++ ' ' :: '=' :: ' ' :: writeValue v ++ '\n' :: writeSimple ms := by
  cases hv <;> rw [writeSimple] <;> exact fun _ h => Toml.noConfusion h

theorem writeTables_cons (hv : Simple v) (path : List String) :
    writeTables path ((name, v) :: ms) = writeTables path ms := by
  cases hv <;> rw [writeTables] <;> exact fun _ h => Toml.noConfusion h

theorem pairs_tables (h : ∀ m ∈ ms, isTable m.2 = true) : pairs ms = [] := by
  induction ms with
  | nil => rw [pairs]
  | cons m ms ih =>
    obtain ⟨hm, hms⟩ := List.forall_mem_cons.mp h
    obtain ⟨name, v⟩ := m
    cases v with
    | table inner =>
      rw [pairs]
      exact ih hms
    | _ => cases hm

theorem writeSimple_tables (h : ∀ m ∈ ms, isTable m.2 = true) : writeSimple ms = [] := by
  induction ms with
  | nil => rw [writeSimple]
  | cons m ms ih =>
    obtain ⟨hm, hms⟩ := List.forall_mem_cons.mp h
    obtain ⟨name, v⟩ := m
    cases v with
    | table inner =>
      rw [writeSimple]
      exact ih hms
    | _ => cases hm

theorem writeSimple_append (hms : ∀ m ∈ ms, Simple m.2) (more : List (String × Toml)) :
    writeSimple (ms ++ more) = writeSimple ms ++ writeSimple more := by
  induction ms with
  | nil =>
    rw [writeSimple]
    rfl
  | cons m ms ih =>
    obtain ⟨hm, hms⟩ := List.forall_mem_cons.mp hms
    rw [List.cons_append, writeSimple_cons hm, writeSimple_cons hm, ih hms]
    simp only [List.append_assoc, List.cons_append]

theorem writeTables_append (hms : ∀ m ∈ ms, Simple m.2) (path : List String)
    (more : List (String × Toml)) : writeTables path (ms ++ more) = writeTables path more := by
  induction ms with
  | nil => rfl
  | cons m ms ih =>
    obtain ⟨hm, hms⟩ := List.forall_mem_cons.mp hms
    rw [List.cons_append, writeTables_cons hm, ih hms]

theorem writeTables_simple (hms : ∀ m ∈ ms, Simple m.2) (path : List String) :
    writeTables path ms = [] := by
  rw [← List.append_nil ms, writeTables_append hms, writeTables]

/-- A header, and the lines of the members that are no tables. -/
def writeSection (path : List String) (ms : List (String × Toml)) : List Char :=
  '\n' :: '[' :: writePath path ++ ']' :: '\n' :: writeSimple ms

theorem writeSection_eq (path : List String) (ms : List (String × Toml)) :
    writeSection path ms = writeSection path [] ++ writeSimple ms := by
  rw [writeSection, writeSection, writeSimple]
  simp only [List.append_assoc, List.cons_append, List.nil_append]

theorem writeTables_table (path : List String) (name : String) (ms more : List (String × Toml)) :
    writeTables path ((name, .table ms) :: more) = writeSection (path ++ [name]) ms ++
      (writeTables (path ++ [name]) ms ++ writeTables path more) := by
  rw [writeTables, writeSection]
  simp only [List.append_assoc, List.cons_append, List.nil_append]

end

/-! ### a line -/

theorem skipSpace_of_ne (h : isSpace c = false) (t : List Char) : skipSpace (c :: t) = c :: t := by
  rw [skipSpace, h]
  exact if_neg Bool.false_ne_true

theorem ahead_of_ne (h : isSpace c = false) (t : List Char) :
    ahead (c :: t) = some ⟨c, t, Shorter.tail⟩ := by
  rw [ahead, h]
  exact if_neg Bool.false_ne_true

theorem skipSpace_space (t : List Char) : skipSpace (' ' :: t) = skipSpace t := by
  rw [skipSpace]
  rfl

theorem ahead_space (t : List Char) :
    ahead (' ' :: t) = (ahead t).map (Read.widen Shorter.tail_le) := by
  rw [ahead]
  rfl

theorem endLine?_newline (rest : List Char) : ∃ h, endLine? ('\n' :: rest) = some ⟨rest, h⟩ :=
  ⟨Shorter.tail_le, rfl⟩

/-- A value does not start with a space. -/
theorem writeValue_front {v : Toml} (hv : Simple v) :
    ∃ c t, writeValue v = c :: t ∧ isSpace c = false := by
  cases hv with
  | text s =>
    obtain ⟨q, t, hfront, hq⟩ := writeText_front s
    refine ⟨q, t, hfront, ?_⟩
    rcases hq with rfl | rfl <;> rfl
  | flag b => cases b <;> exact ⟨_, _, rfl, rfl⟩
  | whole n h =>
    have hdigits : writeValue (.whole n) = Nat.toDigits 10 n := Nat.toList_repr
    obtain ⟨c, t, hfront⟩ := List.exists_cons_of_ne_nil (Nat.toDigits_ne_nil (n := n) (b := 10))
    have hc : c.isDigit = true := Json.isDigit_of_mem (n := n) (hfront ▸ List.mem_cons_self)
    refine ⟨c, t, hdigits.trans hfront, ?_⟩
    rw [isSpace, decide_eq_false (Decimal.digit_ne hc (by decide)),
      decide_eq_false (Decimal.digit_ne hc (by decide))]
    rfl

theorem readStatement_pair {s : List Char} (h : NotFirst '[' s) :
    readStatement s =
      (readPair (readValue maxDepth) s).map fun r => r.map fun (names, v) => .pair names v := by
  rw [readStatement]
  · rintro rest rfl
    exact absurd rfl (h '[' rfl)
  · rintro rest rfl
    exact absurd rfl (h '[' rfl)

/-- A name and a simple value are read back at the end of a line. -/
theorem reads_pair {v : Toml} (hv : Simple v) (name : String) (rest : List Char) :
    Reads readStatement
      (writeName name ++ ' ' :: '=' :: ' ' :: writeValue v ++ '\n' :: rest)
      (.pair [name] v) ('\n' :: rest) := by
  obtain ⟨c, t, hname, hc⟩ := writeName_front name
  obtain ⟨d, u, hvalue, hd⟩ := writeValue_front hv
  have hequals : ahead (' ' :: '=' :: ' ' :: (writeValue v ++ '\n' :: rest)) =
      some ⟨'=', ' ' :: (writeValue v ++ '\n' :: rest), by simp⟩ := by
    rw [ahead_space, ahead_of_ne rfl]
    rfl
  have hends : EndsName (' ' :: '=' :: ' ' :: (writeValue v ++ '\n' :: rest)) :=
    ⟨' ', by decide, _, rfl⟩
  have hstop : ∀ r, ahead (' ' :: '=' :: ' ' :: (writeValue v ++ '\n' :: rest)) = some r →
      r.value ≠ '.' := by
    intro r hr
    rw [hequals] at hr
    cases hr
    show '=' ≠ '.'
    decide
  obtain ⟨_, hkey⟩ : Reads scanKey?
      (writeName name ++ ' ' :: '=' :: ' ' :: (writeValue v ++ '\n' :: rest)) [name]
      (' ' :: '=' :: ' ' :: (writeValue v ++ '\n' :: rest)) := by
    rw [← writePath_singleton]
    exact reads_key (List.cons_ne_nil name []) (show 1 ≤ maxNames by decide) hends hstop
  obtain ⟨_, hread⟩ : Reads (readValue maxDepth)
      (skipSpace (' ' :: (writeValue v ++ '\n' :: rest))) v ('\n' :: rest) := by
    have hskip : skipSpace (' ' :: (writeValue v ++ '\n' :: rest)) =
        writeValue v ++ '\n' :: rest := by
      rw [skipSpace_space, hvalue, List.cons_append, skipSpace_of_ne hd]
    rw [hskip]
    exact reads_simple hv maxDepth rest
  have hline : writeName name ++ ' ' :: '=' :: ' ' :: writeValue v ++ '\n' :: rest =
      writeName name ++ ' ' :: '=' :: ' ' :: (writeValue v ++ '\n' :: rest) := by
    simp only [List.append_assoc, List.cons_append]
  rw [hline]
  have hpair : Reads (readPair (readValue maxDepth))
      (writeName name ++ ' ' :: '=' :: ' ' :: (writeValue v ++ '\n' :: rest)) ([name], v)
      ('\n' :: rest) := by
    refine ⟨by simp only [List.length_append, List.length_cons]; omega, ?_⟩
    rw [readPair, hkey]
    dsimp only
    rw [hequals]
    simp only [hread]
    rfl
  obtain ⟨h, hpair⟩ := hpair
  refine ⟨h, ?_⟩
  have hfront : NotFirst '['
      (writeName name ++ ' ' :: '=' :: ' ' :: (writeValue v ++ '\n' :: rest)) := by
    rw [hname]
    exact notFirst_cons (ne_of_startsName hc (by decide)) _
  rw [readStatement_pair hfront, hpair]
  rfl

/-- A header is read back. -/
theorem reads_header {path : List String} (hne : path ≠ []) (hfew : path.length ≤ maxNames)
    (rest : List Char) :
    Reads readStatement ('[' :: (writePath path ++ ']' :: rest)) (.header path) rest := by
  obtain ⟨c, t, hpath, hc⟩ := writePath_front hne
  have hbracket : ahead (']' :: rest) = some ⟨']', rest, Shorter.tail⟩ := ahead_of_ne rfl rest
  have hends : EndsName (']' :: rest) := ⟨']', by decide, _, rfl⟩
  have hstop : ∀ r, ahead (']' :: rest) = some r → r.value ≠ '.' := by
    intro r hr
    rw [hbracket] at hr
    cases hr
    show ']' ≠ '.'
    decide
  obtain ⟨_, hkey⟩ : Reads scanKey? (skipSpace (writePath path ++ ']' :: rest)) path
      (']' :: rest) := by
    have hskip : skipSpace (writePath path ++ ']' :: rest) = writePath path ++ ']' :: rest := by
      rw [hpath, List.cons_append, skipSpace_of_startsName hc]
    rw [hskip]
    exact reads_key hne hfew hends hstop
  have hclose : skipSpace (']' :: rest) = ']' :: rest := skipSpace_of_ne rfl rest
  have hheader : Reads (readHeader 1) (writePath path ++ ']' :: rest) path rest := by
    refine ⟨by simp only [List.length_append, List.length_cons]; omega, ?_⟩
    unfold readHeader
    rw [hkey]
    simp only [hclose]
    rfl
  obtain ⟨h, hheader⟩ := hheader
  refine ⟨Shorter.cons_of_lt h, ?_⟩
  rw [readStatement, hheader]
  · rfl
  · intro rest' hrest
    rw [hpath] at hrest
    exact ne_of_startsName hc (by decide) (List.cons.inj hrest).1

/-! ### documents -/

theorem skipGap?_newline {s₀ s : List Char} (hs : ('\n' :: s).length ≤ s₀.length) :
    skipGap? ('\n' :: s) hs = skipGap? s (Shorter.le (Shorter.of_front hs)) := by
  rw [skipGap?, if_neg (by decide), if_neg (by decide)]
  rfl

/-- A word comes first, and no gap. -/
def StartsWord (s : List Char) : Prop :=
  ∃ c t, s = c :: t ∧ c ∉ [' ', '\t', '#', '\n', '\r']

theorem startsWord_name (h : startsName c = true) (t : List Char) : StartsWord (c :: t) := by
  have hall : ∀ d ∈ [' ', '\t', '#', '\n', '\r'], startsName d = false := by
    simp only [List.forall_mem_cons]
    exact ⟨by decide, by decide, by decide, by decide, by decide, fun _ hd => nomatch hd⟩
  exact ⟨c, t, rfl, fun hmem => ne_of_startsName h (hall c hmem) rfl⟩

theorem skipGap?_word {s₀ s : List Char} (h : StartsWord s) (hs : s.length ≤ s₀.length) :
    skipGap? s hs = some ⟨s, hs⟩ := by
  obtain ⟨c, t, rfl, hc⟩ := h
  simp only [List.mem_cons, List.not_mem_nil, or_false, not_or] at hc
  obtain ⟨hspace, htab, hcomment, hn, hr⟩ := hc
  have hblank : ¬ isSpace c = true := by
    rw [isSpace, Bool.or_eq_true, decide_eq_true_eq, decide_eq_true_eq, not_or]
    exact ⟨hspace, htab⟩
  have hline : skipNewline? (c :: t) = none := by
    rw [skipNewline?]
    · exact fun _ h => hn (List.cons.inj h).1
    · exact fun _ h => hr (List.cons.inj h).1
  rw [skipGap?, if_neg hblank, if_neg hcomment]
  split
  · rename_i hfound
    rw [hline] at hfound
    cases hfound
  · exact if_neg hr

/-- A statement with the end of its line is the first of a document, whatever gap comes before. -/
theorem readStatements_cons {s u : List Char} {statement : Statement}
    (hgap : ∃ h, skipGap? s (Nat.le_refl _) = some ⟨u, h⟩)
    (hread : Reads readStatement u statement ('\n' :: rest)) :
    readStatements s = (readStatements rest).map (statement :: ·) := by
  obtain ⟨h, hgap⟩ := hgap
  obtain ⟨h', hread⟩ := hread
  obtain ⟨h'', hend⟩ := endLine?_newline rest
  rw [readStatements]
  split
  · rename_i hnone
    rw [hgap] at hnone
    cases hnone
  · rename_i hnil
    rw [hgap] at hnil
    cases hnil
    cases h'
  · rename_i hsome
    rw [hgap] at hsome
    cases hsome
    simp only [hread, hend]

/-- The lines of simple values are read back. -/
theorem readStatements_writeSimple (h : Regular d ms) (rest : List Char) :
    readStatements (writeSimple ms ++ rest) = (readStatements rest).map (pairs ms ++ ·) := by
  induction h with
  | nil =>
    rw [writeSimple, pairs]
    exact Option.map_id'.symm
  | @simple d name v ms hv _ more ih =>
    obtain ⟨c, t, hname, hc⟩ := writeName_front name
    have hread := reads_pair hv name (writeSimple ms ++ rest)
    have hword : StartsWord (writeName name ++ ' ' :: '=' :: ' ' :: writeValue v ++
        '\n' :: (writeSimple ms ++ rest)) := by
      rw [hname]
      exact startsWord_name hc _
    have hgap := skipGap?_word hword (Nat.le_refl _)
    rw [writeSimple_cons hv, pairs_cons hv, List.append_assoc, List.cons_append,
      readStatements_cons ⟨_, hgap⟩ hread, ih, Option.map_map]
    rfl
  | @table d name inner ms _ _ htables more _ ih =>
    rw [writeSimple, pairs]
    exact ih

/-- The lines of tables, each under its header, are read back. -/
theorem readStatements_writeTables (h : Regular d ms) {path : List String}
    (hfew : path.length + d ≤ maxNames) (rest : List Char) :
    readStatements (writeTables path ms ++ rest) =
      (readStatements rest).map (headers path ms ++ ·) := by
  induction h generalizing path rest with
  | nil =>
    rw [writeTables, headers]
    exact Option.map_id'.symm
  | @simple d name v ms hv _ more ih =>
    rw [writeTables_cons hv, headers_cons hv]
    exact ih hfew rest
  | @table d name inner ms hinner _ htables more ihinner ih =>
    have hpath : (path ++ [name]).length + d ≤ maxNames := by
      rw [List.length_append, List.length_singleton]
      omega
    have hne : path ++ [name] ≠ [] := List.append_ne_nil_of_right_ne_nil _ (List.cons_ne_nil _ _)
    have hread := reads_header hne (by omega) ('\n' :: (writeSimple inner ++
      (writeTables (path ++ [name]) inner ++ (writeTables path ms ++ rest))))
    have hword : StartsWord ('[' :: (writePath (path ++ [name]) ++ ']' :: '\n' ::
        (writeSimple inner ++ (writeTables (path ++ [name]) inner ++
          (writeTables path ms ++ rest))))) := ⟨'[', _, rfl, by decide⟩
    have hgap := (skipGap?_newline (Nat.le_refl _)).trans (skipGap?_word hword Shorter.tail_le)
    have htext : writeTables path ((name, .table inner) :: ms) ++ rest =
        '\n' :: '[' :: (writePath (path ++ [name]) ++ ']' :: '\n' ::
          (writeSimple inner ++ (writeTables (path ++ [name]) inner ++
            (writeTables path ms ++ rest)))) := by
      rw [writeTables]
      simp only [List.cons_append, List.append_assoc, List.nil_append]
    rw [htext, readStatements_cons ⟨_, hgap⟩ hread, readStatements_writeSimple hinner,
      ihinner hpath, ih hfew, headers]
    simp only [Option.map_map, Function.comp_def, List.cons_append, List.append_assoc]

/-- What is written starts with no mark of the order of bytes. -/
theorem notFirst_writeSimple (h : Regular d ms) (hrest : NotFirst '\uFEFF' rest) :
    NotFirst '\uFEFF' (writeSimple ms ++ rest) := by
  induction h with
  | nil =>
    rw [writeSimple]
    exact hrest
  | @simple d name v ms hv _ more ih =>
    obtain ⟨c, t, hname, hc⟩ := writeName_front name
    rw [writeSimple_cons hv, hname]
    exact notFirst_cons (ne_of_startsName hc (by decide)) _
  | @table d name inner ms _ _ htables more _ ih =>
    rw [writeSimple]
    exact ih

theorem notFirst_writeTables (h : Regular d ms) (path : List String) :
    NotFirst '\uFEFF' (writeTables path ms) := by
  induction h with
  | nil =>
    rw [writeTables]
    exact notFirst_nil _
  | @simple d name v ms hv _ more ih =>
    rw [writeTables_cons hv]
    exact ih
  | @table d name inner ms _ _ htables more _ ih =>
    rw [writeTables]
    exact notFirst_cons (by decide) _

/-- **The lines of a document are read back, statement by statement.** -/
theorem readStatements_writeDocument (h : Regular d ms) (hfew : d ≤ maxNames) :
    readStatements (skipMark (writeDocument ms).toList) = some (pairs ms ++ headers [] ms) := by
  have hmark : skipMark (writeSimple ms ++ writeTables [] ms) =
      writeSimple ms ++ writeTables [] ms := by
    have hfirst := notFirst_writeSimple h (notFirst_writeTables h [])
    rw [skipMark]
    rintro rest hrest
    exact hfirst _ (hrest ▸ rfl) rfl
  have hroot : ([] : List String).length + d ≤ maxNames := by simpa using hfew
  have htables := readStatements_writeTables h hroot []
  have hnil : readStatements [] = some [] := by
    rw [readStatements, skipGap?]
  rw [List.append_nil, hnil] at htables
  rw [writeDocument, String.toList_ofList, hmark, readStatements_writeSimple h, htables,
    Option.map_some, Option.map_some, List.append_nil]

end TelemetryGate.Toml
