import Mathlib.Data.List.DropRight
import TelemetryGate.Delivery.Post
import TelemetryGate.Proofs.Json.Record

/-!
# A slash after a url

Controls and spaces at the end of a url count for nothing, but those that a slash follows do.

* `blanksLeft`           what a slash after a text keeps of the blanks at its end;
* `exists_body`          a text, and the same with one slash at its end, as they are read;
* `authorityOf`          who is spoken to, after the colon of the scheme;
* `readHierarchy_iff`    a url of a scheme to post over is one if its authority is;
* `KeepsAuthority`       the authority is one also with the blanks that a slash keeps;
* `parse_slashed_iff`    when a url is one also with a slash at its end.
-/

namespace TelemetryGate.Url

/-! ### characters -/

/-- a control or a space -/
def isEdge (c : Char) : Bool := c.toNat ≤ 0x20

/-- a tab or the end of a line -/
def isLineEnd (c : Char) : Bool := ['\t', '\n', '\r'].contains c

/-- a slash where the scheme is special -/
def isSlash (c : Char) : Bool := c = '/' || c = '\\'

/-- what ends an authority where the scheme is special -/
def endsAuthority (c : Char) : Bool := c = '/' || c = '?' || c = '#' || c = '\\'

theorem clean_eq (s : String) :
    clean s = ((s.toList.dropWhile isEdge).rdropWhile isEdge).filter (!isLineEnd ·) := rfl

/-- What a slash after a text keeps of the blanks at its end: all but tabs and line ends. -/
def blanksLeft (s : String) : List Char :=
  ((s.toList.dropWhile isEdge).rtakeWhile isEdge).filter (!isLineEnd ·)

theorem mem_blanksLeft {s : String} {c : Char} (h : c ∈ blanksLeft s) : c.toNat ≤ 0x20 := by
  have hmem := List.mem_rtakeWhile_imp (List.mem_of_mem_filter h)
  exact of_decide_eq_true hmem

/-- What is so of each of the first characters is so of any of them. -/
theorem of_lt {b : Nat} {P : Char → Bool} (h : ∀ n : Fin b, P (Char.ofNat n) = true) {c : Char}
    (hc : c.toNat < b) : P c = true := by
  have hn := h ⟨c.toNat, hc⟩
  rwa [Char.ofNat_toNat] at hn

theorem not_scheme_of_edge {c : Char} (hc : c.toNat ≤ 0x20) :
    isSchemeChar c = false ∧ c ≠ ':' := by
  have h := of_lt (b := 33) (P := fun c => !isSchemeChar c && c ≠ ':') (by decide)
    (Nat.lt_succ_of_le hc)
  simpa using h

theorem not_end_of_edge {c : Char} (hc : c.toNat ≤ 0x20) : endsAuthority c = false := by
  have h := of_lt (b := 33) (P := fun c => !endsAuthority c) (by decide) (Nat.lt_succ_of_le hc)
  simpa using h

theorem drop_takeWhile (p : Char → Bool) (cs : List Char) :
    cs.drop (cs.takeWhile p).length = cs.dropWhile p := by
  have hsplit := congrArg (List.drop (cs.takeWhile p).length)
    (List.takeWhile_append_dropWhile (p := p) (l := cs))
  rwa [List.drop_left, eq_comm] at hsplit

/-! ### texts with a slash at the end -/

theorem dropWhile_slash {p : Char → Bool} (hp : p '/' = false) (l : List Char) (n : Nat) :
    (l ++ List.replicate (n + 1) '/').dropWhile p
      = l.dropWhile p ++ List.replicate (n + 1) '/' := by
  rw [List.dropWhile_append]
  split
  · rename_i h
    rw [List.isEmpty_iff.mp h, List.replicate_succ, List.dropWhile_cons_of_neg (by simp [hp])]
    rfl
  · rfl

theorem rdropWhile_slash {p : Char → Bool} (hp : p '/' = false) (l : List Char) (n : Nat) :
    (l ++ List.replicate (n + 1) '/').rdropWhile p = l ++ List.replicate (n + 1) '/' := by
  rw [List.replicate_succ', ← List.append_assoc, List.rdropWhile_concat_neg _ _ _ (by simp [hp])]

theorem rtakeWhile_slash {p : Char → Bool} (hp : p '/' = false) (l : List Char) (n : Nat) :
    (l ++ List.replicate (n + 1) '/').rtakeWhile p = [] := by
  rw [List.replicate_succ', ← List.append_assoc, List.rtakeWhile_concat_neg _ _ _ (by simp [hp])]

/-- A text with slashes at its end, cleaned. -/
theorem clean_slashes (l : List Char) (n : Nat) :
    clean (String.ofList (l ++ List.replicate (n + 1) '/'))
      = (l.dropWhile isEdge).filter (!isLineEnd ·) ++ List.replicate (n + 1) '/' := by
  rw [clean_eq, String.toList_ofList, dropWhile_slash rfl, rdropWhile_slash rfl,
    List.filter_append]
  congr 1
  exact List.filter_eq_self.mpr fun c hc => by rw [List.eq_of_mem_replicate hc]; rfl

/-- As they are read, a text and the same with one slash at its end differ in the slashes and blanks
at their ends only. -/
theorem exists_body (s : String) :
    ∃ (body : List Char) (n : Nat), clean s = body ++ List.replicate n '/' ∧
      clean (Endpoint.trimSlashes s ++ "/") = body ++ (blanksLeft s ++ ['/']) ∧
      (n = 0 ∨ blanksLeft s = []) := by
  have hslashed : Endpoint.trimSlashes s ++ "/"
      = String.ofList (s.toList.rdropWhile (· = '/') ++ List.replicate (0 + 1) '/') :=
    String.ofList_append.symm
  have hall : s.toList.rtakeWhile (· = '/')
      = List.replicate (s.toList.rtakeWhile (· = '/')).length '/' :=
    List.eq_replicate_of_mem fun c hc => by simpa using List.mem_rtakeWhile_imp hc
  have hsplit := List.rdropWhile_append_rtakeWhile (p := (· = '/')) (l := s.toList)
  rw [hall] at hsplit
  rw [hslashed, clean_slashes]
  generalize s.toList.rdropWhile (· = '/') = trimmed at hsplit
  generalize (s.toList.rtakeWhile (· = '/')).length = n at hsplit
  cases n with
  | zero =>
    rw [List.replicate_zero, List.append_nil] at hsplit
    refine ⟨clean s, 0, (List.append_nil _).symm, ?_, .inl rfl⟩
    rw [hsplit, clean_eq, blanksLeft, ← List.append_assoc, ← List.filter_append,
      List.rdropWhile_append_rtakeWhile]
    rfl
  | succ n =>
    have hs : s = String.ofList (trimmed ++ List.replicate (n + 1) '/') := by
      rw [hsplit, String.ofList_toList]
    have hnone : blanksLeft s = [] := by
      rw [blanksLeft, ← hsplit, dropWhile_slash rfl, rtakeWhile_slash rfl]
      rfl
    refine ⟨(trimmed.dropWhile isEdge).filter (!isLineEnd ·), n + 1, ?_, ?_, .inr hnone⟩
    · rw [hs]
      exact clean_slashes trimmed n
    · rw [hnone]
      rfl

/-! ### the scheme -/

/-- What follows begins with nothing that belongs to a scheme. -/
def AfterScheme (more : List Char) : Prop :=
  ∀ c, more.head? = some c → isSchemeChar c = false ∧ c ≠ ':'

theorem AfterScheme.slashes (n : Nat) : AfterScheme (List.replicate n '/') := by
  intro c hc
  cases n with
  | zero => cases hc
  | succ n =>
    cases hc
    exact ⟨by decide, by decide⟩

theorem AfterScheme.blanks (s : String) : AfterScheme (blanksLeft s ++ ['/']) := by
  intro c hc
  cases hb : blanksLeft s with
  | nil =>
    rw [hb] at hc
    cases hc
    exact ⟨by decide, by decide⟩
  | cons b rest =>
    rw [hb] at hc
    cases hc
    exact not_scheme_of_edge (mem_blanksLeft (hb ▸ List.mem_cons_self))

/-- The scheme is read before that. -/
theorem readScheme?_append {cs more : List Char} (h : AfterScheme more) :
    readScheme? (cs ++ more) = (readScheme? cs).map fun p => (p.1, p.2 ++ more) := by
  have hnone : more.takeWhile isSchemeChar = [] := by
    cases more with
    | nil => rfl
    | cons c rest => rw [List.takeWhile_cons_of_neg (by simp [(h c rfl).1])]
  have hname : (cs ++ more).takeWhile isSchemeChar = cs.takeWhile isSchemeChar := by
    rw [List.takeWhile_append]
    split
    · rename_i he
      rw [hnone, List.append_nil]
      exact ((List.takeWhile_prefix _).eq_of_length he).symm
    · rfl
  have hdrop : (cs ++ more).drop (cs.takeWhile isSchemeChar).length
      = cs.drop (cs.takeWhile isSchemeChar).length ++ more :=
    List.drop_append_of_le_length (List.takeWhile_prefix _).length_le
  unfold readScheme?
  dsimp only
  rw [hname, hdrop]
  generalize cs.takeWhile isSchemeChar = name
  generalize cs.drop name.length = rest
  cases name with
  | nil => rfl
  | cons c name =>
    cases rest with
    | nil =>
      cases more with
      | nil => rfl
      | cons d more =>
        have hd : d ≠ ':' := (h d rfl).2
        simp [hd]
    | cons d rest =>
      by_cases hd : d = ':'
      · subst hd
        by_cases hc : c.isAlpha = true
        · simp [hc]
        · simp [hc]
      · simp [hd]

/-! ### the authority -/

/-- Who is spoken to, after the colon of the scheme. -/
def authorityOf (rest : List Char) : List Char :=
  (rest.dropWhile isSlash).takeWhile (!endsAuthority ·)

/-- whether a scheme is one to post over -/
def isPosted (scheme : String) : Bool := scheme = "http" || scheme = "https"

theorem readFile_scheme {cs : List Char} {u : Url} (h : readFile cs = .ok u) :
    u.scheme = "file" := by
  unfold readFile at h
  extract_lets isSlash slashes rest hostPart isDrive url at h
  split at h
  · cases h
    rfl
  · obtain ⟨host, -, h⟩ := Json.bind_ok h
    cases h
    rfl

theorem readHierarchy_scheme {scheme : String} {cs : List Char} {u : Url}
    (h : readHierarchy scheme cs = .ok u) : u.scheme = scheme := by
  unfold readHierarchy at h
  obtain ⟨who, -, h⟩ := Json.bind_ok h
  cases h
  rfl

/-- A url has the scheme that was read. -/
theorem parse_scheme {s : String} {u : Url} (h : parse s = .ok u) :
    ∃ rest, readScheme? (clean s) = some (u.scheme, rest) := by
  unfold parse at h
  cases hs : readScheme? (clean s) with
  | none =>
    rw [hs] at h
    cases h
  | some read =>
    obtain ⟨scheme, rest⟩ := read
    rw [hs] at h
    dsimp only at h
    have hscheme : u.scheme = scheme := by
      split at h
      · rename_i hfile
        rw [readFile_scheme h, hfile]
      · split at h
        · exact readHierarchy_scheme h
        · split at h
          · exact readHierarchy_scheme h
          · cases h
            rfl
    exact ⟨rest, by rw [hscheme]⟩

theorem isSpecial_of_isPosted {scheme : String} (hp : isPosted scheme = true) :
    isSpecial scheme = true ∧ scheme ≠ "file" := by
  rcases (by simpa [isPosted] using hp : scheme = "http" ∨ scheme = "https") with rfl | rfl
  · exact ⟨by decide, by decide⟩
  · exact ⟨by decide, by decide⟩

theorem parse_posted {s scheme : String} {rest : List Char}
    (h : readScheme? (clean s) = some (scheme, rest)) (hp : isPosted scheme = true) :
    parse s = readHierarchy scheme (rest.dropWhile isSlash) := by
  obtain ⟨hspecial, hfile⟩ := isSpecial_of_isPosted hp
  unfold parse
  rw [h]
  dsimp only
  rw [if_neg hfile, if_pos hspecial]
  rfl

theorem authorityOf_eq {scheme : String} (hp : isPosted scheme = true) (rest : List Char) :
    (rest.dropWhile isSlash).takeWhile (fun c => !(c = '/' || c = '?' || c = '#' ||
      (isSpecial scheme && c = '\\'))) = authorityOf rest := by
  rw [(isSpecial_of_isPosted hp).1]
  rfl

/-- A url of a scheme to post over is one if and only if its authority is. -/
theorem readHierarchy_iff {scheme : String} {rest : List Char} (hp : isPosted scheme = true) :
    (∃ u, readHierarchy scheme (rest.dropWhile isSlash) = .ok u) ↔
      ∃ who, readAuthority scheme (authorityOf rest) = .ok who := by
  unfold readHierarchy
  dsimp only
  rw [authorityOf_eq hp]
  cases readAuthority scheme (authorityOf rest) with
  | error e => exact iff_of_false (fun h => nomatch h.choose_spec) fun h => nomatch h.choose_spec
  | ok who => exact iff_of_true ⟨_, rfl⟩ ⟨_, rfl⟩

/-! ### what a slash makes of the authority -/

theorem dropWhile_of_ne_nil {rest : List Char} (h : rest.dropWhile isSlash ≠ [])
    (more : List Char) : (rest ++ more).dropWhile isSlash = rest.dropWhile isSlash ++ more := by
  rw [List.dropWhile_append, if_neg (by rwa [List.isEmpty_iff])]

theorem authorityOf_front (rest : List Char) : authorityOf rest <+: rest.dropWhile isSlash :=
  List.takeWhile_prefix _

/-- What follows a text belongs to its authority if nothing else follows that. -/
theorem authorityOf_append {rest : List Char} (h : rest.dropWhile isSlash ≠ [])
    (more : List Char) :
    authorityOf (rest ++ more) = authorityOf rest ++
      if authorityOf rest = rest.dropWhile isSlash then more.takeWhile (!endsAuthority ·)
      else [] := by
  unfold authorityOf
  rw [dropWhile_of_ne_nil h, List.takeWhile_append]
  generalize rest.dropWhile isSlash = tail
  by_cases he : tail.takeWhile (!endsAuthority ·) = tail
  · rw [if_pos (congrArg List.length he), if_pos he, he]
  · rw [if_neg fun hl => he ((List.takeWhile_prefix _).eq_of_length hl), if_neg he,
      List.append_nil]

theorem authorityOf_slashes (rest : List Char) (n : Nat) :
    authorityOf (rest ++ List.replicate n '/') = authorityOf rest := by
  by_cases h : rest.dropWhile isSlash = []
  · have hall : (List.replicate n '/').dropWhile isSlash = [] :=
      List.dropWhile_eq_nil_iff.mpr fun c hc => by rw [List.eq_of_mem_replicate hc]; rfl
    unfold authorityOf
    rw [List.dropWhile_append, h, List.isEmpty_nil, if_pos rfl, hall]
  · have hnone : (List.replicate n '/').takeWhile (!endsAuthority ·) = [] := by
      cases n <;> rfl
    rw [authorityOf_append h, hnone, ite_self, List.append_nil]

/-- Slashes at the end stand behind the authority. -/
theorem ends_slashes_iff {rest : List Char} (h : rest.dropWhile isSlash ≠ []) (n : Nat) :
    authorityOf (rest ++ List.replicate n '/')
        = (rest ++ List.replicate n '/').dropWhile isSlash ↔
      authorityOf rest = rest.dropWhile isSlash ∧ n = 0 := by
  rw [authorityOf_slashes, dropWhile_of_ne_nil h]
  constructor
  · intro he
    have hlength := congrArg List.length he
    rw [List.length_append, List.length_replicate] at hlength
    have hle := (authorityOf_front rest).length_le
    exact ⟨(authorityOf_front rest).eq_of_length (by omega), by omega⟩
  · rintro ⟨he, rfl⟩
    rw [he, List.replicate_zero, List.append_nil]

theorem takeWhile_blanks (s : String) :
    (blanksLeft s ++ ['/']).takeWhile (!endsAuthority ·) = blanksLeft s := by
  rw [List.takeWhile_append_of_pos fun c hc => by rw [not_end_of_edge (mem_blanksLeft hc)]; rfl]
  exact List.append_nil _

theorem authority_ne_nil {scheme : String} (hp : isPosted scheme = true) {cs : List Char}
    {who : String × Option Host × Option Nat} (h : readAuthority scheme cs = .ok who) :
    cs ≠ [] := by
  rintro rfl
  have hspecial := (isSpecial_of_isPosted hp).1
  unfold readAuthority at h
  simp [splitUser, takeHost, hspecial] at h
  cases h

/-- The authority is one also with the blanks that a slash keeps behind it, if nothing else stands
between them. -/
def KeepsAuthority (s : String) : Prop :=
  ∀ scheme rest, readScheme? (clean s) = some (scheme, rest) →
    authorityOf rest = rest.dropWhile isSlash →
      ∃ who, readAuthority scheme (authorityOf rest ++ blanksLeft s) = .ok who

theorem keepsAuthority_of_read {s scheme : String} {rest : List Char}
    (h : readScheme? (clean s) = some (scheme, rest)) :
    KeepsAuthority s ↔ (authorityOf rest = rest.dropWhile isSlash →
      ∃ who, readAuthority scheme (authorityOf rest ++ blanksLeft s) = .ok who) := by
  refine ⟨fun hkeeps => hkeeps _ _ h, fun hkeeps scheme' rest' h' => ?_⟩
  rw [h] at h'
  cases h'
  exact hkeeps

/-- What follows the scheme of a url to post over, and what follows it with one slash at the end. -/
theorem exists_front {s : String} {u : Url} (h : parse s = .ok u)
    (hp : isPosted u.scheme = true) : ∃ (front : List Char) (n : Nat),
      readScheme? (clean s) = some (u.scheme, front ++ List.replicate n '/') ∧
      readScheme? (clean (Endpoint.trimSlashes s ++ "/")) =
        some (u.scheme, front ++ (blanksLeft s ++ ['/'])) ∧
      (n = 0 ∨ blanksLeft s = []) ∧ front.dropWhile isSlash ≠ [] := by
  obtain ⟨body, n, hclean, hslashed, hends⟩ := exists_body s
  obtain ⟨rest, hread⟩ := parse_scheme h
  have hparse := h
  rw [parse_posted hread hp] at hparse
  obtain ⟨who, hwho⟩ := (readHierarchy_iff hp).mp ⟨u, hparse⟩
  -- the scheme is that of the common part
  have hbody := hread
  rw [hclean, readScheme?_append (.slashes n)] at hbody
  obtain ⟨⟨scheme, front⟩, hfront, hsame⟩ := Option.map_eq_some_iff.mp hbody
  dsimp only at hsame
  obtain ⟨rfl, rfl⟩ := Prod.mk.inj hsame
  rw [authorityOf_slashes] at hwho
  refine ⟨front, n, hread, ?_, hends, fun hnil => ?_⟩
  · rw [hslashed, readScheme?_append (.blanks s), hfront]
    rfl
  · refine authority_ne_nil hp hwho ?_
    rw [authorityOf, hnil]
    rfl

/-- A url to post over is one also with a slash for those at its end, if it keeps its authority. -/
theorem parse_slashed_iff {s : String} {u : Url} (h : parse s = .ok u)
    (hp : isPosted u.scheme = true) :
    (∃ v, parse (Endpoint.trimSlashes s ++ "/") = .ok v) ↔ KeepsAuthority s := by
  obtain ⟨front, n, hread, hread', hends, hne⟩ := exists_front h hp
  rw [parse_posted hread hp] at h
  obtain ⟨who, hwho⟩ := (readHierarchy_iff hp).mp ⟨u, h⟩
  rw [authorityOf_slashes] at hwho
  rw [parse_posted hread' hp, readHierarchy_iff hp, authorityOf_append hne, takeWhile_blanks,
    keepsAuthority_of_read hread, ends_slashes_iff hne, authorityOf_slashes]
  by_cases hlast : authorityOf front = front.dropWhile isSlash
  · rw [if_pos hlast]
    refine ⟨fun hkept _ => hkept, fun hkeeps => ?_⟩
    rcases hends with hnone | hnone
    · exact hkeeps ⟨hlast, hnone⟩
    · rw [hnone, List.append_nil]
      exact ⟨who, hwho⟩
  · rw [if_neg hlast, List.append_nil]
    exact iff_of_true ⟨who, hwho⟩ fun hno => absurd hno.1 hlast

end TelemetryGate.Url
