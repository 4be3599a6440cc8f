import TelemetryGate.Proofs.Url.Blanks

/-!
# The path in front of another

What a slash behind a url leaves of its path when the path of something else is put there: all but
the slashes at its end, as a rule, but its last segment is lost to a query or a fragment, and blanks
at its end are taken for part of it.

* `enter`, `resolve_append`   the segments of a path, one after another;
* `readPath_slashes`          a path with slashes behind it;
* `readPath_blanks`           a path with blanks and a slash behind it;
* `trimmed`                   a path without the slashes at its end;
* `pathOf`, `readHierarchy_ok`   what follows the authority, and what is read of it;
* `slashed_authority`         who is spoken to stays the same with a slash behind the url;
* `slashed_path`              and the path it has then.
-/

namespace TelemetryGate.Url

/-! ### segments -/

/-- The segments so far, in reverse, when one more is entered that is not the last. -/
def enter (done : List String) (s : List Char) : List String :=
  if isDoubleDot s then done.tail else if isDot s then done else encodeText inPath s :: done

/-- whether a segment is not one of its own -/
def isDots (s : List Char) : Bool := isDoubleDot s || isDot s

theorem enter_nil (done : List String) : enter done [] = "" :: done := rfl

theorem enter_of_not_dots {s : List Char} (h : isDots s = false) (done : List String) :
    enter done s = encodeText inPath s :: done := by
  obtain ⟨hdouble, hdot⟩ := Bool.or_eq_false_iff.mp h
  rw [enter, hdouble, hdot]
  rfl

theorem resolve_cons (done : List String) (s : List Char) {rest : List (List Char)}
    (h : rest ≠ []) : resolve done (s :: rest) = resolve (enter done s) rest := by
  have hrest : rest.isEmpty = false := List.isEmpty_eq_false_iff.mpr h
  rw [resolve, hrest]
  rfl

/-- The last segment leaves an empty one in its place if it is none of its own. -/
theorem resolve_last (done : List String) (s : List Char) :
    resolve done [s] = (if isDots s then "" :: enter done s else enter done s).reverse := by
  rw [resolve, resolve]
  unfold isDots enter
  cases isDoubleDot s with
  | true => rfl
  | false =>
    cases isDot s with
    | true => rfl
    | false => rfl

theorem resolve_append (done : List String) (init : List (List Char)) {rest : List (List Char)}
    (h : rest ≠ []) : resolve done (init ++ rest) = resolve (init.foldl enter done) rest := by
  induction init generalizing done with
  | nil => rfl
  | cons s init ih =>
    rw [List.cons_append, resolve_cons _ _ (List.append_ne_nil_of_right_ne_nil _ h), ih]
    rfl

theorem resolve_slashes (done : List String) (n : Nat) :
    resolve done (List.replicate (n + 1) []) = done.reverse ++ List.replicate (n + 1) "" := by
  induction n generalizing done with
  | zero => exact (resolve_last done []).trans List.reverse_cons
  | succ n ih =>
    have hne : List.replicate (n + 1) ([] : List Char) ≠ [] := List.cons_ne_nil _ _
    rw [List.replicate_succ, resolve_cons _ _ hne, ih, enter_nil, List.reverse_cons,
      List.append_assoc]
    rfl

/-! ### paths -/

theorem readPath_cons {c : Char} (hc : isSlash c = true) (cs : List Char) :
    readPath true (c :: cs) = resolve [] (cs.splitOnP isSlash) := by
  have hhead : (((c :: cs).head?.map isSlash).getD false) = true := hc
  show resolve [] ((if ((c :: cs).head?.map isSlash).getD false then (c :: cs).tail
    else c :: cs).splitOnP isSlash) = _
  rw [if_pos hhead]
  rfl

theorem splitOnP_slashes (n : Nat) :
    (List.replicate n '/').splitOnP isSlash = List.replicate (n + 1) [] := by
  induction n with
  | zero => rfl
  | succ n ih =>
    rw [List.replicate_succ]
    exact (List.splitOnP_append_cons [] _ (by decide)).trans (congrArg (List.cons []) ih)

/-- What is no slash at the end of a path belongs to its last segment. -/
theorem splitOnP_append (cs : List Char) : ∃ init last, cs.splitOnP isSlash = init ++ [last] ∧
    ∀ more : List Char, (∀ c ∈ more, isSlash c = false) →
      (cs ++ more).splitOnP isSlash = init ++ [last ++ more] := by
  induction cs with
  | nil => exact ⟨[], [], rfl, fun more hmore => List.splitOnP_eq_singleton hmore⟩
  | cons c cs ih =>
    obtain ⟨init, last, hcs, happend⟩ := ih
    by_cases hc : isSlash c = true
    · refine ⟨[] :: init, last, ?_, fun more hmore => ?_⟩
      · rw [List.splitOnP_cons_eq_if_modifyHead, if_pos hc, hcs]
        rfl
      · rw [List.cons_append, List.splitOnP_cons_eq_if_modifyHead, if_pos hc, happend more hmore]
        rfl
    · cases init with
      | nil =>
        refine ⟨[], c :: last, ?_, fun more hmore => ?_⟩
        · rw [List.splitOnP_cons_eq_if_modifyHead, if_neg hc, hcs]
          rfl
        · rw [List.cons_append, List.splitOnP_cons_eq_if_modifyHead, if_neg hc,
            happend more hmore]
          rfl
      | cons first init =>
        refine ⟨(c :: first) :: init, last, ?_, fun more hmore => ?_⟩
        · rw [List.splitOnP_cons_eq_if_modifyHead, if_neg hc, hcs]
          rfl
        · rw [List.cons_append, List.splitOnP_cons_eq_if_modifyHead, if_neg hc,
            happend more hmore]
          rfl

/-- A path opens with a slash or is empty. -/
def Opens (p : List Char) : Prop := ∀ c ∈ p.head?, isSlash c = true

/-- **A path with slashes behind it: an empty segment for each of them, behind the path itself or
what its last segment leaves of it.** -/
theorem readPath_slashes {p : List Char} (hp : Opens p) : ∃ base,
    (∀ n, readPath true (p ++ List.replicate (n + 1) '/') =
      base ++ List.replicate (n + 1) "") ∧
    (readPath true p = base ∨ readPath true p = base ++ [""]) := by
  cases p with
  | nil =>
    refine ⟨[], fun n => ?_, .inr rfl⟩
    rw [List.nil_append, List.replicate_succ, readPath_cons (by decide), splitOnP_slashes,
      resolve_slashes]
    rfl
  | cons c cs =>
    have hc : isSlash c = true := hp c rfl
    obtain ⟨init, last, hcs, -⟩ := splitOnP_append cs
    refine ⟨((init ++ [last]).foldl enter []).reverse, fun n => ?_, ?_⟩
    · have hne : List.replicate (n + 1) ([] : List Char) ≠ [] := List.cons_ne_nil _ _
      rw [List.cons_append, readPath_cons hc, List.replicate_succ,
        List.splitOnP_append_cons _ _ (by decide), splitOnP_slashes, hcs, resolve_append _ _ hne,
        resolve_slashes]
    · rw [readPath_cons hc, hcs, resolve_append _ _ (List.cons_ne_nil _ _), resolve_last,
        List.foldl_append]
      cases isDots last with
      | true => exact .inr List.reverse_cons
      | false => exact .inl rfl

/-! ### blanks at the end of a path -/

/-- A path without the slashes at its end. -/
def trimmed (parts : List String) : List String := parts.rdropWhile (· = "")

theorem trimmed_slashes (parts : List String) (n : Nat) :
    trimmed (parts ++ List.replicate n "") = trimmed parts := by
  unfold trimmed
  induction n with
  | zero => rw [List.replicate_zero, List.append_nil]
  | succ n ih =>
    rw [List.replicate_succ', ← List.append_assoc, List.rdropWhile_concat_pos _ _ _ (by decide), ih]

theorem trimmed_eq_self_iff (parts : List String) :
    trimmed parts = parts ↔ parts.getLast? ≠ some "" := by
  rw [trimmed, List.rdropWhile_eq_self_iff]
  cases parts with
  | nil => exact iff_of_true (fun h => absurd rfl h) nofun
  | cons part parts =>
    have hne : part :: parts ≠ [] := List.cons_ne_nil _ _
    rw [List.getLast?_eq_some_getLast hne]
    constructor
    · intro h e
      exact h hne (decide_eq_true (Option.some.inj e))
    · intro h _ e
      exact h (congrArg some (of_decide_eq_true e))

/-- Segments that are none of their own hold no blank. -/
theorem not_dots_of_edge {s : List Char} {c : Char} (hc : c ∈ s) (h : c.toNat ≤ 0x20) :
    isDots s = false := by
  have hwords : ["..", ".%2e", "%2e.", "%2e%2e", ".", "%2e"].all
      (fun w => w.toList.all fun d => 0x20 < d.toNat) = true := by decide
  have hlower : c ∈ s.map Char.toLower :=
    List.mem_map.mpr ⟨c, hc, Domain.toLower_of_edge h⟩
  refine Bool.eq_false_iff.mpr fun hdots => ?_
  have hword : String.ofList (s.map Char.toLower) ∈
      ["..", ".%2e", "%2e.", "%2e%2e", ".", "%2e"] := by
    rcases Bool.or_eq_true_iff.mp hdots with hdots | hdots
    · exact List.mem_append_left [".", "%2e"] (List.contains_iff_mem.mp hdots)
    · exact List.mem_append_right ["..", ".%2e", "%2e.", "%2e%2e"] (List.contains_iff_mem.mp hdots)
  have hhigh := List.all_eq_true.mp (List.all_eq_true.mp hwords _ hword) c
    (by rwa [String.toList_ofList])
  exact absurd (of_decide_eq_true hhigh) (Nat.not_lt.mpr h)

theorem encodeChar_ne_nil {c : Char} (h : c.toNat ≤ 0x20) : encodeChar inPath c ≠ [] := by
  unfold encodeChar
  split
  · rw [Utf8.encode_toString, Utf8.char_of_lt (by omega)]
    exact List.cons_ne_nil _ _
  · exact List.cons_ne_nil _ _

theorem encodeText_append_ne (s : List Char) {blanks : List Char}
    (hb : ∀ c ∈ blanks, c.toNat ≤ 0x20) (hne : blanks ≠ []) :
    encodeText inPath (s ++ blanks) ≠ encodeText inPath s ∧
      encodeText inPath (s ++ blanks) ≠ "" := by
  obtain ⟨b, more, rfl⟩ := List.exists_cons_of_ne_nil hne
  have hnil : (b :: more).flatMap (encodeChar inPath) ≠ [] := by
    rw [List.flatMap_cons]
    exact List.append_ne_nil_of_left_ne_nil (encodeChar_ne_nil (hb b List.mem_cons_self)) _
  unfold encodeText
  rw [List.flatMap_append]
  constructor
  · intro h
    exact hnil (List.append_right_eq_self.mp (String.ofList_injective h))
  · intro h
    have hlist := congrArg String.toList h
    rw [String.toList_ofList] at hlist
    exact hnil (List.append_eq_nil_iff.mp hlist).2

theorem length_enter (done : List String) {s : List Char} (h : isDots s = true) :
    (enter done s).length ≤ done.length := by
  unfold enter
  split
  · rw [List.length_tail]
    exact Nat.sub_le _ _
  · rename_i hdouble
    rw [isDots, Bool.eq_false_iff.mpr hdouble, Bool.false_or] at h
    rw [if_pos h]

/-- **Blanks at the end of a path and a slash behind them: the blanks are taken for part of the last
segment.** -/
theorem readPath_blanks {p blanks : List Char} (hp : Opens p) (hne : p ≠ [])
    (hb : ∀ c ∈ blanks, c.toNat ≤ 0x20) (hblanks : blanks ≠ []) : ∃ base,
      readPath true (p ++ (blanks ++ ['/'])) = base ++ [""] ∧
        base ≠ trimmed (readPath true p) := by
  obtain ⟨c, cs, rfl⟩ := List.exists_cons_of_ne_nil hne
  have hc : isSlash c = true := hp c rfl
  obtain ⟨init, last, hcs, happend⟩ := splitOnP_append cs
  have hmore : ∀ b ∈ blanks, isSlash b = false := by
    intro b hmem
    have hends := not_end_of_edge (hb b hmem)
    have hslash : isSlash b = true → endsAuthority b = true := by
      intro h
      rcases Bool.or_eq_true_iff.mp h with h | h
      · rw [of_decide_eq_true h]
        rfl
      · rw [of_decide_eq_true h]
        rfl
    exact Bool.eq_false_iff.mpr fun h => by
      rw [hslash h] at hends
      cases hends
  obtain ⟨b, hmem⟩ := List.exists_mem_of_ne_nil blanks hblanks
  have hdots := not_dots_of_edge (List.mem_append_right last hmem) (hb b hmem)
  obtain ⟨hlonger, hnonempty⟩ := encodeText_append_ne last hb hblanks
  refine ⟨(init.foldl enter []).reverse ++ [encodeText inPath (last ++ blanks)], ?_, ?_⟩
  · have hlast : isDots [] = false := by decide
    rw [List.cons_append, readPath_cons hc, ← List.append_assoc,
      List.splitOnP_append_cons _ _ (by decide), happend _ hmore, List.splitOnP_nil,
      resolve_append _ _ (List.cons_ne_nil _ _), resolve_last, List.foldl_append, hlast,
      List.foldl_cons, List.foldl_nil, enter_of_not_dots hdots, enter_nil]
    show ("" :: _ :: _).reverse = _
    rw [List.reverse_cons, List.reverse_cons]
  · rw [readPath_cons hc, hcs, resolve_append _ _ (List.cons_ne_nil _ _), resolve_last]
    generalize init.foldl enter [] = done
    intro heq
    have hfront : done.reverse ++ [encodeText inPath (last ++ blanks)] <+:
        (if isDots last then "" :: enter done last else enter done last).reverse :=
      heq ▸ List.rdropWhile_prefix _ _
    -- no room is left behind it
    cases hd : isDots last with
    | true =>
      rw [hd, if_pos rfl, List.reverse_cons] at hfront
      have hlength := length_enter done hd
      have hwhole := hfront.eq_of_length_le (by simp; omega)
      exact hnonempty (List.singleton_inj.mp (List.append_inj_right' hwhole rfl))
    | false =>
      rw [hd, if_neg (by decide), enter_of_not_dots hd, List.reverse_cons] at hfront
      have hwhole := hfront.eq_of_length_le (by simp)
      exact hlonger (List.singleton_inj.mp (List.append_inj_right' hwhole rfl))

/-! ### what follows the authority -/

/-- What follows the authority: a path, and perhaps a query and a fragment. -/
def pathOf (rest : List Char) : List Char := (rest.dropWhile isSlash).dropWhile (!endsAuthority ·)

theorem authorityOf_append_pathOf (rest : List Char) :
    authorityOf rest ++ pathOf rest = rest.dropWhile isSlash := List.takeWhile_append_dropWhile

theorem pathOf_eq_nil_iff (rest : List Char) :
    pathOf rest = [] ↔ authorityOf rest = rest.dropWhile isSlash := by
  rw [← authorityOf_append_pathOf rest]
  exact List.self_eq_append_right.symm

/-- What follows a text follows the path, or the authority if nothing else follows that. -/
theorem pathOf_append {rest : List Char} (h : rest.dropWhile isSlash ≠ []) (more : List Char) :
    pathOf (rest ++ more) =
      if pathOf rest = [] then more.dropWhile (!endsAuthority ·) else pathOf rest ++ more := by
  unfold pathOf
  rw [dropWhile_of_ne_nil h, List.dropWhile_append]
  simp only [List.isEmpty_iff]

theorem pathOf_ends {rest : List Char} {c : Char} {cs : List Char} (h : pathOf rest = c :: cs) :
    endsAuthority c = true := by
  have hhead := List.head?_dropWhile_not (!endsAuthority ·) (rest.dropWhile isSlash)
  rw [← pathOf, h] at hhead
  simpa using hhead

/-- whether a character leaves it at a path -/
def staysInPath (c : Char) : Bool := c ≠ '?' && c ≠ '#'

theorem splitTail_fst (special : Bool) (cs : List Char) :
    (splitTail special cs).1 = cs.takeWhile staysInPath := by
  unfold splitTail
  dsimp only
  split
  · rfl
  · rfl

/-- There is no query and no fragment where the path is all there is. -/
theorem splitTail_bare_iff (special : Bool) (cs : List Char) :
    ((splitTail special cs).2.1 = none ∧ (splitTail special cs).2.2 = none) ↔
      cs.takeWhile staysInPath = cs := by
  have hwhole : cs.takeWhile staysInPath = cs ↔ cs.dropWhile staysInPath = [] := by
    rw [List.dropWhile_eq_nil_iff]
    exact List.takeWhile_eq_self_iff
  have hdrop : cs.drop (cs.takeWhile fun c => c ≠ '?' && c ≠ '#').length =
      cs.dropWhile staysInPath := drop_takeWhile staysInPath cs
  rw [hwhole]
  unfold splitTail
  dsimp only
  rw [hdrop]
  generalize cs.dropWhile staysInPath = tail
  split
  · exact iff_of_false (fun h => nomatch h.1) (List.cons_ne_nil _ _)
  · cases tail with
    | nil => exact iff_of_true ⟨rfl, rfl⟩ rfl
    | cons c more => exact iff_of_false (fun h => nomatch h.2) (List.cons_ne_nil _ _)

/-- Nothing follows the path. -/
def Bare (u : Url) : Prop := u.query = none ∧ u.fragment = none

/-- What is read of a url to post over, part by part. -/
theorem readHierarchy_ok {scheme : String} {rest : List Char} {u : Url}
    (hp : isPosted scheme = true) (h : readHierarchy scheme (rest.dropWhile isSlash) = .ok u) :
    readAuthority scheme (authorityOf rest) = .ok (u.user, u.host, u.port) ∧
      u.path = .segments (readPath true ((pathOf rest).takeWhile staysInPath)) ∧
      (u.Bare ↔ (pathOf rest).takeWhile staysInPath = pathOf rest) := by
  have hspecial := (isSpecial_of_isPosted hp).1
  have hpath : (rest.dropWhile isSlash).drop (authorityOf rest).length = pathOf rest :=
    drop_takeWhile _ _
  unfold readHierarchy at h
  obtain ⟨⟨user, host, port⟩, hread, h⟩ := Json.bind_ok h
  rw [authorityOf_eq hp] at hread
  dsimp only at h
  rw [authorityOf_eq hp, hpath, hspecial] at h
  have hfst := splitTail_fst true (pathOf rest)
  have hbare := splitTail_bare_iff true (pathOf rest)
  rcases splitTail true (pathOf rest) with ⟨path, query, fragment⟩
  cases h
  refine ⟨hread, ?_, hbare⟩
  rw [← hfst, Bool.not_true, Bool.and_false]
  rfl

theorem pathOf_slashes {rest : List Char} (h : rest.dropWhile isSlash ≠ []) (n : Nat) :
    pathOf (rest ++ List.replicate n '/') = pathOf rest ++ List.replicate n '/' := by
  rw [pathOf_append h]
  split
  · rename_i hnil
    rw [hnil]
    cases n <;> rfl
  · rfl

theorem opens_of_stays {rest : List Char}
    (h : (pathOf rest).takeWhile staysInPath = pathOf rest) : Opens (pathOf rest) := by
  intro c hc
  obtain ⟨cs, hcs⟩ := List.head?_eq_some_iff.mp hc
  have hends := pathOf_ends hcs
  have hstays := List.takeWhile_eq_self_iff.mp h c (hcs ▸ List.mem_cons_self)
  unfold endsAuthority at hends
  unfold staysInPath at hstays
  unfold isSlash
  simp only [Bool.or_eq_true, Bool.and_eq_true, decide_eq_true_eq, ne_eq] at hends hstays ⊢
  tauto

theorem pathOf_blanks {rest : List Char} (h : rest.dropWhile isSlash ≠ []) (s : String) :
    pathOf (rest ++ (blanksLeft s ++ ['/'])) =
      if pathOf rest = [] then ['/'] else pathOf rest ++ (blanksLeft s ++ ['/']) := by
  have hdrop : (blanksLeft s ++ ['/']).dropWhile (!endsAuthority ·) = ['/'] := by
    rw [List.dropWhile_append_of_pos fun c hc => by
      rw [not_end_of_edge (mem_blanksLeft hc)]
      rfl]
    rfl
  rw [pathOf_append h, hdrop]

theorem stays_slashes (n : Nat) : ∀ c ∈ List.replicate n '/', staysInPath c = true := by
  intro c hc
  rw [List.eq_of_mem_replicate hc]
  rfl

theorem stays_blanks (s : String) : ∀ c ∈ blanksLeft s ++ ['/'], staysInPath c = true := by
  intro c hc
  rcases List.mem_append.mp hc with hc | hc
  · exact of_lt (b := 33) (P := staysInPath) (by decide) (Nat.lt_succ_of_le (mem_blanksLeft hc))
  · rw [List.mem_singleton.mp hc]
    rfl

/-- What leaves it at a path stays in it. -/
theorem takeWhile_stays {p more : List Char} (hmore : ∀ c ∈ more, staysInPath c = true) :
    (p ++ more).takeWhile staysInPath =
      if p.takeWhile staysInPath = p then p ++ more else p.takeWhile staysInPath := by
  rw [List.takeWhile_append]
  by_cases h : p.takeWhile staysInPath = p
  · rw [if_pos (congrArg List.length h), if_pos h, List.takeWhile_eq_self_iff.mpr hmore]
  · have hlength : (p.takeWhile staysInPath).length ≠ p.length := fun hl =>
      h ((List.takeWhile_prefix _).eq_of_length hl)
    rw [if_neg hlength, if_neg h]

theorem resolve_ne_nil (done : List String) {segs : List (List Char)} (h : segs ≠ []) :
    resolve done segs ≠ [] := by
  rw [← List.dropLast_append_getLast h, resolve_append _ _ (List.cons_ne_nil _ _), resolve_last]
  refine List.reverse_ne_nil_iff.mpr ?_
  cases hd : isDots (segs.getLast h) with
  | true => exact List.cons_ne_nil _ _
  | false =>
    rw [enter_of_not_dots hd]
    exact List.cons_ne_nil _ _

theorem readPath_ne_nil (p : List Char) : readPath true p ≠ [] :=
  resolve_ne_nil [] (List.splitOnP_ne_nil _ _)

/-! ### a slash behind a url -/

section
variable {s : String} {u v : Url} (h : parse s = .ok u) (hp : isPosted u.scheme = true)
  (hv : parse (Endpoint.trimSlashes s ++ "/") = .ok v)
include hp hv

/-- No blanks that a slash would keep stand directly behind the authority. -/
theorem blanksLeft_of_authority {front : List Char}
    (hread' : readScheme? (clean (Endpoint.trimSlashes s ++ "/")) =
      some (u.scheme, front ++ (blanksLeft s ++ ['/'])))
    (hne : front.dropWhile isSlash ≠ []) (hlast : authorityOf front = front.dropWhile isSlash) :
    blanksLeft s = [] := by
  rw [parse_posted hread' hp] at hv
  obtain ⟨hwho, -, -⟩ := readHierarchy_ok hp hv
  rw [authorityOf_append hne, takeWhile_blanks, if_pos hlast] at hwho
  by_contra hblanks
  obtain ⟨e, he⟩ := readAuthority_blanks (fun c => mem_blanksLeft) hblanks hp
    (not_mem_authorityOf front)
  cases hwho.symm.trans he

include h

theorem slashed_scheme : v.scheme = u.scheme := by
  obtain ⟨front, n, -, hread', -⟩ := exists_front h hp
  obtain ⟨rest, hrest⟩ := parse_scheme hv
  exact (Prod.mk.inj (Option.some.inj (hrest.symm.trans hread'))).1

/-- The authority is the same. -/
theorem slashed_authority : v.user = u.user ∧ v.host = u.host ∧ v.port = u.port := by
  obtain ⟨front, n, hread, hread', -, hne⟩ := exists_front h hp
  have hnothing : (if authorityOf front = front.dropWhile isSlash then blanksLeft s else [])
      = [] := by
    by_cases hlast : authorityOf front = front.dropWhile isSlash
    · rw [if_pos hlast]
      exact blanksLeft_of_authority hp hv hread' hne hlast
    · exact if_neg hlast
  rw [parse_posted hread hp] at h
  rw [parse_posted hread' hp] at hv
  obtain ⟨hwho, -, -⟩ := readHierarchy_ok hp h
  obtain ⟨hwho', -, -⟩ := readHierarchy_ok hp hv
  rw [authorityOf_slashes] at hwho
  rw [authorityOf_append hne, takeWhile_blanks] at hwho'
  rw [hnothing, List.append_nil, hwho] at hwho'
  obtain ⟨huser, hrest⟩ := Prod.mk.inj (Except.ok.inj hwho')
  obtain ⟨hhost, hport⟩ := Prod.mk.inj hrest
  exact ⟨huser.symm, hhost.symm, hport.symm⟩

/-- What is read as the path, and what is with a slash for those at its end. -/
theorem path_texts : ∃ p p', u.path = .segments (readPath true p) ∧
    v.path = .segments (readPath true p') ∧
    (¬ u.Bare → p' = p) ∧
    (u.Bare → ∃ t n, Opens t ∧ p = t ++ List.replicate n '/' ∧
      (blanksLeft s = [] → p' = t ++ List.replicate 1 '/') ∧
      (blanksLeft s ≠ [] → n = 0 ∧ t ≠ [] ∧ p' = t ++ (blanksLeft s ++ ['/']))) := by
  obtain ⟨front, n, hread, hread', hends, hne⟩ := exists_front h hp
  have hbehind := blanksLeft_of_authority hp hv hread' hne
  rw [← pathOf_eq_nil_iff] at hbehind
  rw [parse_posted hread hp] at h
  rw [parse_posted hread' hp] at hv
  obtain ⟨-, hpath, hbare⟩ := readHierarchy_ok hp h
  obtain ⟨-, hpath', -⟩ := readHierarchy_ok hp hv
  refine ⟨_, _, hpath, hpath', fun hmore => ?_, fun hwhole => ?_⟩
  · rw [hbare] at hmore
    rw [pathOf_slashes hne, takeWhile_stays (stays_slashes n)] at hmore ⊢
    have hstays : (pathOf front).takeWhile staysInPath ≠ pathOf front := fun heq => by
      rw [if_pos heq] at hmore
      exact hmore rfl
    have hnil : pathOf front ≠ [] := fun hnil => by
      rw [hnil] at hstays
      exact hstays rfl
    rw [pathOf_blanks hne, if_neg hnil, takeWhile_stays (stays_blanks s), if_neg hstays,
      if_neg hstays]
  · have hwhole' := hbare.mp hwhole
    rw [pathOf_slashes hne] at hwhole'
    have hstays : (pathOf front).takeWhile staysInPath = pathOf front :=
      List.takeWhile_eq_self_iff.mpr fun c hc =>
        List.takeWhile_eq_self_iff.mp hwhole' c (List.mem_append_left _ hc)
    refine ⟨pathOf front, n, opens_of_stays hstays, ?_, fun hnone => ?_, fun hblanks => ?_⟩
    · rw [pathOf_slashes hne, hwhole']
    · rw [pathOf_blanks hne]
      by_cases hnil : pathOf front = []
      · rw [if_pos hnil, hnil]
        rfl
      · rw [if_neg hnil, takeWhile_stays (stays_blanks s), if_pos hstays, hnone]
        rfl
    · obtain rfl := hends.resolve_right hblanks
      have hnil : pathOf front ≠ [] := mt hbehind hblanks
      refine ⟨rfl, hnil, ?_⟩
      rw [pathOf_blanks hne, if_neg hnil, takeWhile_stays (stays_blanks s), if_pos hstays]

/-- **The path with a slash for those at its end. Behind a query or a fragment the slash is not of
the path. Else it has a segment for itself, behind all that the path comes to but some slashes at
its end; blanks behind the path are taken for part of it.** -/
theorem slashed_path : ∃ parts base last, u.path = .segments parts ∧
    v.path = .segments (base ++ [last]) ∧ (¬ u.Bare → parts = base ++ [last]) ∧
    (u.Bare → blanksLeft s = [] → ∃ n, parts = base ++ List.replicate n "") ∧
    (u.Bare → blanksLeft s ≠ [] → base ≠ trimmed parts) := by
  obtain ⟨p, p', hpath, hpath', hmore, hwhole⟩ := path_texts h hp hv
  by_cases hbare : u.Bare
  · obtain ⟨t, n, hopens, rfl, hheld, hblanks⟩ := hwhole hbare
    by_cases hnone : blanksLeft s = []
    · obtain rfl := hheld hnone
      obtain ⟨base, hslashed, hown⟩ := readPath_slashes hopens
      rw [hslashed 0] at hpath'
      refine ⟨_, base, "", hpath, hpath', fun hno => absurd hbare hno, fun _ _ => ?_,
        fun _ hno => absurd hnone hno⟩
      cases n with
      | zero =>
        rw [List.replicate_zero, List.append_nil]
        rcases hown with hown | hown
        · exact ⟨0, hown.trans (List.append_nil _).symm⟩
        · exact ⟨1, hown⟩
      | succ n => exact ⟨n + 1, hslashed n⟩
    · obtain ⟨rfl, hne, rfl⟩ := hblanks hnone
      obtain ⟨base, hbase, hneq⟩ :=
        readPath_blanks hopens hne (fun c => mem_blanksLeft) hnone
      rw [hbase] at hpath'
      rw [List.replicate_zero, List.append_nil] at hpath
      exact ⟨_, base, "", hpath, hpath', fun hno => absurd hbare hno,
        fun _ hheld => absurd hheld hnone, fun _ _ => hneq⟩
  · obtain rfl := hmore hbare
    have hsplit := List.dropLast_append_getLast (readPath_ne_nil p')
    exact ⟨_, _, _, hpath, hpath'.trans (congrArg Path.segments hsplit.symm),
      fun _ => hsplit.symm, fun hno => absurd hno hbare, fun hno => absurd hno hbare⟩

end

end TelemetryGate.Url
