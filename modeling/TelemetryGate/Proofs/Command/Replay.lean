import TelemetryGate.Command.Replay
import TelemetryGate.Proofs.Response
import TelemetryGate.Proofs.Session.Program

/-!
# Replaying an input

Replaying an input is a session of submissions, one for each line that is no blank, as far as the
lines are text.

* `framed`, `lines_eq`            the lines of an input;
* `submitted`, `submissions`      those that are submitted, and the session of them;
* `submitLines_eq`                submitting lines comes to what the session comes to;
* `Replayed`, `replayed`          so does replaying an input, and it lists the answers.
-/

namespace TelemetryGate.Command

/-! ### lines -/

/-- A line without a carriage return at its end. -/
def chomp (line : List UInt8) : List UInt8 :=
  if line.getLast? = some 13 then line.dropLast else line

/-- A part that a line feed ends is a line, without a carriage return before it; the last part is
one unless nothing stands in it. -/
def ofParts (parts : List (List UInt8)) : List (List UInt8) :=
  parts.dropLast.map chomp ++ parts.getLast?.toList.filter fun last => !last.isEmpty

/-- The lines between line feeds. -/
def framed (bytes : List UInt8) : List (List UInt8) := ofParts (bytes.splitOn 10)

theorem ofParts_cons (part : List UInt8) {parts : List (List UInt8)} (h : parts ≠ []) :
    ofParts (part :: parts) = chomp part :: ofParts parts := by
  unfold ofParts
  rw [List.dropLast_cons_of_ne_nil h, List.getLast?_cons, List.getLast?_eq_some_getLast h]
  rfl

theorem ofParts_singleton (part : List UInt8) :
    ofParts [part] = if part.isEmpty then [] else [part] := by
  cases part <;> rfl

theorem chomp_reverse (line : List UInt8) :
    chomp line.reverse = (match line with | 13 :: before => before | _ => line).reverse := by
  split
  · rw [chomp, List.getLast?_reverse, List.head?_cons, if_pos rfl, List.dropLast_reverse,
      List.tail_cons]
  · next hline =>
    rw [chomp, List.getLast?_reverse]
    refine if_neg fun hhead => ?_
    obtain ⟨before, hbefore⟩ := List.head?_eq_some_iff.mp hhead
    exact hline before hbefore

theorem linesFrom_eq (line bytes : List UInt8) :
    linesFrom line bytes = ofParts ((bytes.splitOn 10).modifyHead (line.reverse ++ ·)) := by
  induction bytes generalizing line with
  | nil =>
    rw [linesFrom, List.splitOn_nil, List.modifyHead_cons, List.append_nil, ofParts_singleton,
      List.isEmpty_reverse]
  | cons b rest ih =>
    show (if b = 10 then _ :: linesFrom [] rest else linesFrom (b :: line) rest) = _
    rw [List.splitOn_cons_eq_if_modifyHead]
    by_cases hb : b = 10
    · have hrest := congrFun List.modifyHead_id (rest.splitOn 10)
      rw [if_pos hb, if_pos (beq_iff_eq.mpr hb), List.modifyHead_cons, List.append_nil,
        ofParts_cons _ (List.splitOn_ne_nil 10 rest), chomp_reverse, ih]
      exact congrArg (fun parts => _ :: ofParts parts) hrest
    · rw [if_neg hb, if_neg (mt beq_iff_eq.mp hb), ih, List.modifyHead_modifyHead]
      refine congrArg (fun f => ofParts ((rest.splitOn 10).modifyHead f)) (funext fun part => ?_)
      show (b :: line).reverse ++ part = line.reverse ++ (b :: part)
      rw [List.reverse_cons, List.append_assoc]
      rfl

theorem lines_eq (bytes : List UInt8) : lines bytes = framed bytes := by
  rw [lines, linesFrom_eq]
  exact congrArg ofParts (congrFun List.modifyHead_id (bytes.splitOn 10))

/-- A carriage return stays where no line feed follows it. -/
example : lines [97, 13, 10, 10, 98, 13] = [[97], [], [98, 13]] := by decide

/-! ### what is submitted -/

/-- The lines in front of the first that is no text, but for the blank ones. -/
def submitted (ls : List (List UInt8)) : List (List UInt8) :=
  (ls.takeWhile fun line => (Utf8.decode? line).isSome).filter
    fun line => !(Utf8.decode? line).any Text.isBlankText

/-- The submissions of lines, the first of them being the `n`th of its session. -/
def submissions (user : String) (o : Nat → Outcomes) (n : Nat) :
    List (List UInt8) → List Session.Step
  | [] => []
  | line :: rest => ⟨.handle (.whole line) user, o n⟩ :: submissions user o (n + 1) rest

section
variable {line : List UInt8} {text : String} (rest : List (List UInt8))

theorem submitted_of_broken (h : Utf8.decode? line = none) : submitted (line :: rest) = [] := by
  rw [submitted, List.takeWhile_cons_of_neg (by rw [h]; decide)]
  rfl

theorem submitted_of_text (h : Utf8.decode? line = some text) :
    submitted (line :: rest) =
      if Text.isBlankText text then submitted rest else line :: submitted rest := by
  rw [submitted, List.takeWhile_cons_of_pos (by rw [h]; rfl), List.filter_cons, h]
  show (if !Text.isBlankText text then _ else _) = _
  cases Text.isBlankText text <;> rfl

variable {user : String} {o : Nat → Outcomes} {acc : List Response} {g : Gate}

theorem submitLines_of_broken (h : Utf8.decode? line = none) :
    submitLines user o acc g (line :: rest) =
      { answer := .error (.io "stream did not contain valid UTF-8"), state := g } := by
  rw [submitLines, h]

theorem submitLines_of_text (h : Utf8.decode? line = some text) :
    submitLines user o acc g (line :: rest) =
      if Text.isBlankText text then submitLines user o acc g rest
      else (g.handle (.whole line) user (o acc.length)).andThen fun response g =>
        submitLines user o (response :: acc) g rest := by
  rw [submitLines, h]

end

/-! ### the session -/

/-- Every line is a text. -/
def AllText (ls : List (List UInt8)) : Prop := ∀ line ∈ ls, ∃ text, Utf8.encode text = line

theorem code_handle (g : Gate) (body : Body) (user : String) (o : Outcomes) :
    (g.handle body user o).answer.code ≤ Word.mostShort := by
  rw [Gate.handle_answer]
  cases (g.ingest body user o).answer with
  | ok event => show Response.accepted ≤ Word.mostShort; decide
  | error reason => show Response.badRequest ≤ Word.mostShort; decide

theorem submissions_answer (user : String) (o : Nat → Outcomes) (n : Nat) (g : Gate)
    (ls : List (List UInt8)) :
    ∃ responses : List Response,
      (Session.run g (submissions user o n ls)).answer = responses.map .answered ∧
        ∀ r ∈ responses, r.code ≤ Word.mostShort := by
  induction ls generalizing n g with
  | nil => exact ⟨[], rfl, fun r hr => nomatch hr⟩
  | cons line rest ih =>
    obtain ⟨responses, hanswer, hcode⟩ := ih (n + 1) (g.handle (.whole line) user (o n)).state
    refine ⟨(g.handle (.whole line) user (o n)).answer :: responses, ?_, ?_⟩
    · exact congrArg (Session.Reply.answered (g.handle (.whole line) user (o n)).answer :: ·)
        hanswer
    · exact List.forall_mem_cons.mpr ⟨code_handle .., hcode⟩

/-- What submitting lines comes to beside a session: the same is done, and if every line is a text,
the answers are those of the session. -/
structure Submits (ls : List (List UInt8)) (acc : List Response)
    (done : Done Gate (Except HostError (List Response)))
    (session : Done Gate (List Session.Reply)) : Prop where
  state : done.state = session.state
  calls : done.calls = session.calls
  log : done.log = session.log
  answer : (AllText ls ∧ ∀ responses : List Response, session.answer = responses.map .answered →
      done.answer = .ok (acc.reverse ++ responses)) ∨
    (¬ AllText ls ∧ done.answer = .error (.io "stream did not contain valid UTF-8"))

theorem submitLines_eq (user : String) (o : Nat → Outcomes) (acc : List Response) (g : Gate)
    (ls : List (List UInt8)) :
    Submits ls acc (submitLines user o acc g ls)
      (Session.run g (submissions user o acc.length (submitted ls))) := by
  induction ls generalizing acc g with
  | nil =>
    refine ⟨rfl, rfl, rfl, .inl ⟨fun line hline => (nomatch hline), fun responses h => ?_⟩⟩
    have hnil : responses = [] := List.map_eq_nil_iff.mp h.symm
    rw [hnil, List.append_nil]
    rfl
  | cons line rest ih =>
    cases hline : Utf8.decode? line with
    | none =>
      rw [submitLines_of_broken rest hline, submitted_of_broken rest hline]
      refine ⟨rfl, rfl, rfl, .inr ⟨fun hall => ?_, rfl⟩⟩
      obtain ⟨text, htext⟩ := hall line List.mem_cons_self
      rw [Utf8.decode?_eq_some_iff.mpr htext] at hline
      cases hline
    | some text =>
      -- the line decides nothing about whether all are texts
      have hall : AllText (line :: rest) ↔ AllText rest :=
        List.forall_mem_cons.trans (and_iff_right ⟨text, Utf8.decode?_eq_some_iff.mp hline⟩)
      rw [submitLines_of_text rest hline, submitted_of_text rest hline]
      by_cases hblank : Text.isBlankText text = true
      · rw [if_pos hblank, if_pos hblank]
        obtain ⟨hstate, hcalls, hlog, hanswer⟩ := ih acc g
        exact ⟨hstate, hcalls, hlog, by rwa [hall]⟩
      · rw [if_neg hblank, if_neg hblank]
        let handled := g.handle (.whole line) user (o acc.length)
        obtain ⟨hstate, hcalls, hlog, hanswer⟩ := ih (handled.answer :: acc) handled.state
        refine ⟨hstate, congrArg (handled.calls ++ ·) hcalls, congrArg (handled.log ++ ·) hlog, ?_⟩
        rw [hall]
        refine hanswer.imp_left (And.imp_right fun hok responses hresponses => ?_)
        obtain ⟨r, responses', rfl, hr, hrest⟩ := List.map_eq_cons_iff.mp hresponses.symm
        cases hr
        have hanswers := hok responses' hrest.symm
        rw [List.reverse_cons, List.append_assoc] at hanswers
        exact hanswers

/-! ### the replay -/

/-- A replay of some bytes comes to what the session of its submissions comes to. -/
structure Replayed (bytes : List UInt8) (done : Done Gate (Except HostError String))
    (session : Done Gate (List Session.Reply)) : Prop where
  state : done.state = session.state
  calls : done.calls = session.calls
  /-- if every line is a text, the answers of the session stand on a line each; if one is not, that
  is the answer -/
  answer :
    (AllText (framed bytes) ∧ ∃ (text : String) (responses : List Response),
      done.answer = .ok text ∧ session.answer = responses.map .answered ∧
        (if responses = [] then text = "" else Response.Lists text responses) ∧
        done.log = session.log ++ [{ level := .info, target, message := "Replayed track events"
                                     fields := [("count", .number responses.length)] }]) ∨
    (¬ AllText (framed bytes) ∧
      done.answer = .error (.io "stream did not contain valid UTF-8") ∧ done.log = session.log)

/-- **A replay submits the lines of its input that are not blank, up to the first that is no text,
and lists the answers.** -/
theorem replayed (bytes : List UInt8) (user : String) (o : Nat → Outcomes) (g : Gate) :
    Replayed bytes (replay ⟨bytes, none⟩ user o g)
      (Session.run g (submissions user o 0 (submitted (framed bytes)))) := by
  obtain ⟨responses, hresponses, hcode⟩ :=
    submissions_answer user o 0 g (submitted (framed bytes))
  obtain ⟨hstate, hcalls, hlog, hanswer⟩ := submitLines_eq user o [] g (framed bytes)
  have hlines : (⟨bytes, none⟩ : Feed).lines = framed bytes := lines_eq bytes
  unfold replay
  rw [hlines]
  rcases hanswer with ⟨hall, hok⟩ | ⟨hall, hbroken⟩
  · have hdone := hok responses hresponses
    unfold Done.andThen
    rw [hdone]
    refine ⟨hstate, (List.append_nil _).trans hcalls,
      .inl ⟨hall, _, responses, rfl, hresponses, ?_, congrArg (· ++ _) hlog⟩⟩
    split
    · next hnil => rw [hnil]; rfl
    · next hne => exact Response.listed hne hcode
  · unfold Done.andThen
    rw [hbroken]
    exact ⟨hstate, (List.append_nil _).trans hcalls,
      .inr ⟨hall, rfl, (List.append_nil _).trans hlog⟩⟩

end TelemetryGate.Command
