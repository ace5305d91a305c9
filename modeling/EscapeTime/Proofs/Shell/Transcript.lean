import EscapeTime.Proofs.Formula.Reading
import EscapeTime.Proofs.Shell.Value

namespace EscapeTime.Shell

/-!
# A session remembers its policy and nothing else

Each line of a session is answered by itself, under the policy that the last line before it has set.
So a session is what its lines answer one after the other, up to the first that ends it. Blank lines
can be left out; a line that fails answers for itself and leaves the rest as it was.
-/

open Text

/-! ### Joining what is printed -/

namespace Output

lemma append_def (a b : Output) : a ++ b = ⟨a.out ++ b.out, a.err ++ b.err⟩ := rfl

@[simp] lemma empty_append (a : Output) : empty ++ a = a := by simp [append_def, empty]

@[simp] lemma append_empty (a : Output) : a ++ empty = a := by simp [append_def, empty]

lemma append_assoc (a b c : Output) : a ++ b ++ c = a ++ (b ++ c) := by
  simp [append_def, String.append_assoc]

/-- What is printed one after the other. -/
def join : List Output → Output
  | [] => empty
  | o :: os => o ++ join os

end Output

/-! ### What a line asks for -/

/-- The command of a line that begins with a colon: the word before the first space, and what stands
behind that space, if there is one. -/
def commandOf? (line : String) : Option (String × Option (List Char)) :=
  match trim line.toList with
  | ':' :: rest =>
    let (word, argument) := splitOnce ' ' (':' :: rest)
    some (String.ofList word, argument.map trim)
  | _ => none

/-- The words that end a session. -/
def quitWords : List String := [":quit", ":q", ":exit"]

/-- The words of all other commands. -/
def commandWords : List String :=
  [":help", ":h", ":strict", ":compat", ":ast", ":json", ":kernel", ":k", ":eval"]

/-- The line ends the session. -/
def quits (line : String) : Bool :=
  (commandOf? line).any fun command => quitWords.contains command.1

/-- The policy that a word sets. -/
def settingOf? (word : String) : Option Policy :=
  if word = ":strict" then some .strict else if word = ":compat" then some .compat else none

/-- The policy that a line sets. -/
def sets? (line : String) : Option Policy :=
  (commandOf? line).bind fun command => settingOf? command.1

/-- The line holds nothing but blanks. -/
def IsBlank (line : String) : Prop := ∀ c ∈ line.toList, isBlank c

/-- The line holds something, and is no command. -/
def IsFormula (line : String) : Prop := ∃ c rest, trim line.toList = c :: rest ∧ c ≠ ':'

/-- The formula of a line that is no command. -/
def formulaOf (line : String) : String := String.ofList (trim line.toList)

/-- What the line prints under a policy. -/
def answer (policy : Policy) (line : String) : Output :=
  match turn policy line with
  | .stop => .empty
  | .next _ output => output

/-- The line cannot be compiled or evaluated under the policy, or its command is not known or lacks
what it is about. -/
inductive Fails (policy : Policy) (line : String) : Prop
  | formula {e : Error} (hline : IsFormula line)
    (h : Kernel.compileWith policy (formulaOf line) = .error e)
  | kernel {word : String} {argument : List Char} {e : Error}
    (hline : commandOf? line = some (word, some argument)) (hword : word ∈ [":kernel", ":k"])
    (h : Kernel.compileWith policy (String.ofList argument) = .error e)
  | value {argument : List Char} (hline : commandOf? line = some (":eval", some argument))
    (h : ∀ v : Complex, showValue policy argument ≠ .say (v.text ++ "\n"))
  | incomplete {word : String} (hline : commandOf? line = some (word, none))
    (hword : word ∈ [":ast", ":json", ":kernel", ":k", ":eval"])
  | unknown {word : String} {argument : Option (List Char)}
    (hline : commandOf? line = some (word, argument)) (hword : word ∉ quitWords ++ commandWords)

/-! ### One line -/

section Line

variable {policy : Policy} {line : String}

lemma turn_of_command {word : String} {argument : Option (List Char)}
    (h : commandOf? line = some (word, argument)) :
    turn policy line = command policy word argument := by
  unfold commandOf? at h
  split at h
  · rename_i rest htrim
    obtain ⟨rfl, rfl⟩ := Prod.mk.inj (Option.some.inj h)
    unfold turn
    rw [htrim]
    rfl
  · cases h

lemma turn_of_formula (h : IsFormula line) :
    turn policy line = .next policy (showKernel policy (formulaOf line)) := by
  obtain ⟨c, rest, htrim, hc⟩ := h
  unfold turn formulaOf
  rw [htrim]
  split
  · rename_i heq
    cases heq
  · rename_i heq
    exact absurd (List.cons.inj heq).1 hc
  · rfl

lemma commandOf?_of_formula (h : IsFormula line) : commandOf? line = none := by
  obtain ⟨c, rest, htrim, hc⟩ := h
  unfold commandOf?
  rw [htrim]
  split
  · rename_i heq
    exact absurd (List.cons.inj heq).1 hc
  · rfl

lemma command_of_quit {word : String} (h : word ∈ quitWords) (argument : Option (List Char)) :
    command policy word argument = .stop := by
  simp only [quitWords, List.mem_cons, List.not_mem_nil, or_false] at h
  rcases h with rfl | rfl | rfl <;> rfl

lemma command_of_setting {word : String} {setting : Policy} (h : settingOf? word = some setting)
    (argument : Option (List Char)) :
    word ∉ quitWords ∧ ∃ output, command policy word argument = .next setting output := by
  unfold settingOf? at h
  split_ifs at h with hstrict hcompat
  · subst hstrict
    obtain rfl := Option.some.inj h
    exact ⟨by decide, _, rfl⟩
  · subst hcompat
    obtain rfl := Option.some.inj h
    exact ⟨by decide, _, rfl⟩

lemma command_of_other {word : String} (hquit : word ∉ quitWords)
    (hsetting : settingOf? word = none) (argument : Option (List Char)) :
    ∃ output, command policy word argument = .next policy output := by
  have hquit : (word == ":quit" || word == ":q" || word == ":exit") = false := by
    simpa [quitWords, and_assoc] using hquit
  have hset : (word == ":strict") = false ∧ (word == ":compat") = false := by
    unfold settingOf? at hsetting
    split_ifs at hsetting with hstrict hcompat
    exact ⟨beq_false_of_ne hstrict, beq_false_of_ne hcompat⟩
  unfold command
  simp only [hquit, hset, Bool.false_eq_true, if_false]
  split_ifs
  all_goals first | exact ⟨_, rfl⟩ | (cases argument <;> exact ⟨_, rfl⟩)

/-- What one line does: it ends the session, or it sets the policy it stands for, if it stands for
one, and prints its answer. -/
lemma turn_eq (policy : Policy) (line : String) :
    turn policy line =
      if quits line then .stop else .next ((sets? line).getD policy) (answer policy line) := by
  unfold quits sets? answer
  cases hcommand : commandOf? line with
  | some command =>
    rw [turn_of_command hcommand]
    by_cases hquit : command.1 ∈ quitWords
    · simp [hquit, command_of_quit]
    · have hnext : ∃ output, Shell.command policy command.1 command.2 =
          .next ((settingOf? command.1).getD policy) output := by
        cases hsetting : settingOf? command.1 with
        | none => exact command_of_other hquit hsetting _
        | some setting => exact (command_of_setting hsetting _).2
      obtain ⟨output, houtput⟩ := hnext
      simp [hquit, houtput]
  | none =>
    unfold commandOf? at hcommand
    unfold turn
    split at hcommand
    · cases hcommand
    · split <;> simp_all

lemma neutral_of_word {word : String} {argument : Option (List Char)}
    (h : commandOf? line = some (word, argument)) (hquit : word ∉ quitWords)
    (hsetting : settingOf? word = none) : quits line = false ∧ sets? line = none := by
  unfold quits sets?
  simp [h, hquit, hsetting]

/-- A line that fails neither ends the session nor sets a policy. -/
lemma Fails.neutral (h : Fails policy line) : quits line = false ∧ sets? line = none := by
  cases h with
  | formula hline => simp [quits, sets?, commandOf?_of_formula hline]
  | kernel hline hword =>
    simp only [List.mem_cons, List.not_mem_nil, or_false] at hword
    rcases hword with rfl | rfl <;> exact neutral_of_word hline (by decide) (by decide)
  | value hline => exact neutral_of_word hline (by decide) (by decide)
  | incomplete hline hword =>
    simp only [List.mem_cons, List.not_mem_nil, or_false] at hword
    rcases hword with rfl | rfl | rfl | rfl | rfl <;>
      exact neutral_of_word hline (by decide) (by decide)
  | @unknown word _ hline hword =>
    simp only [List.mem_append, not_or] at hword
    refine neutral_of_word hline hword.1 ?_
    unfold settingOf?
    split_ifs with hstrict hcompat
    · exact absurd (by simp [hstrict, commandWords]) hword.2
    · exact absurd (by simp [hcompat, commandWords]) hword.2
    · rfl

lemma trim_of_isBlank (h : IsBlank line) : trim line.toList = [] := by
  have hend : ∀ c ∈ ([] : List Char).head?, isBlank c = false := by simp
  have hrest := dropWhile_blank_append h hend
  rw [List.append_nil] at hrest
  rw [trim, hrest]
  rfl

/-- A blank line prints nothing, does not end the session and sets no policy. -/
lemma IsBlank.silent (h : IsBlank line) (policy : Policy) :
    quits line = false ∧ sets? line = none ∧ answer policy line = .empty := by
  have htrim := trim_of_isBlank h
  unfold quits sets? answer commandOf? turn
  rw [htrim]
  exact ⟨rfl, rfl, rfl⟩

lemma commandOf?_of_trim {word rest : List Char} (hword : ' ' ∉ word)
    (h : trim line.toList = ':' :: word ++ ' ' :: rest) :
    commandOf? line = some (String.ofList (':' :: word), some (trim rest)) := by
  have hsplit := splitOnce_append (show ' ' ∉ ':' :: word by simpa using hword) rest
  unfold commandOf?
  rw [h]
  simp only [List.cons_append] at hsplit ⊢
  simp only [hsplit, Option.map_some]

/-- The kernel of a formula is shown whether it is asked for or not. -/
lemma turn_kernel (h : IsFormula line) : turn policy (":kernel " ++ line) = turn policy line := by
  have hne : trim line.toList ≠ [] := by
    obtain ⟨c, rest, htrim, -⟩ := h
    simp [htrim]
  have hcolon : ∃ c ∈ ":kernel ".toList.head?, isBlank c = false := ⟨':', rfl, rfl⟩
  obtain ⟨lead, hlead, htrim⟩ := exists_trim_append hcolon hne
  have htyped : trim (":kernel " ++ line).toList =
      ':' :: "kernel".toList ++ ' ' :: (lead ++ trim line.toList) := by
    rw [String.toList_append, htrim]
    rfl
  have hcommand := commandOf?_of_trim (by decide) htyped
  rw [trim_append_trim hlead hne] at hcommand
  rw [turn_of_formula h, turn_of_command hcommand]
  rfl

end Line

/-! ### Many lines -/

/-- The policy after some lines: the last that was set, or the one from before. -/
def policyAfter (policy : Policy) (ls : List String) : Policy :=
  (ls.filterMap sets?).getLast?.getD policy

/-- The lines before the first that ends the session. -/
def heard (ls : List String) : List String := ls.takeWhile (!quits ·)

/-- What lines print that do not end the session: each its answer, under the policy after the lines
before it. -/
def spoken (policy : Policy) (ls : List String) : Output :=
  .join (ls.mapIdx fun i line => answer (policyAfter policy (ls.take i)) line)

section Lines

variable (policy : Policy)

@[simp] lemma policyAfter_nil : policyAfter policy [] = policy := rfl

lemma policyAfter_cons (line : String) (rest : List String) :
    policyAfter policy (line :: rest) = policyAfter ((sets? line).getD policy) rest := by
  unfold policyAfter
  cases hset : sets? line with
  | none => simp [hset]
  | some setting => simp [hset, List.getLast?_cons]

lemma policyAfter_append (front back : List String) :
    policyAfter policy (front ++ back) = policyAfter (policyAfter policy front) back := by
  induction front generalizing policy with
  | nil => rfl
  | cons line rest ih => rw [List.cons_append, policyAfter_cons, ih, policyAfter_cons]

@[simp] lemma spoken_nil : spoken policy [] = .empty := rfl

lemma spoken_cons (line : String) (rest : List String) :
    spoken policy (line :: rest) =
      answer policy line ++ spoken ((sets? line).getD policy) rest := by
  unfold spoken
  rw [List.mapIdx_cons, Output.join]
  simp [policyAfter_cons]

/-- The next line goes on under the policy that the lines before it have left. -/
lemma transcript_append {front : List String} (h : ∀ line ∈ front, quits line = false)
    (back : List String) :
    transcript policy (front ++ back) =
      spoken policy front ++ transcript (policyAfter policy front) back := by
  induction front generalizing policy with
  | nil => simp
  | cons line rest ih =>
    obtain ⟨hline, hrest⟩ := List.forall_mem_cons.1 h
    rw [List.cons_append, transcript, turn_eq, hline, spoken_cons, policyAfter_cons]
    simp only [Bool.false_eq_true, if_false]
    rw [ih _ hrest, Output.append_assoc]

lemma transcript_of_quits {line : String} (h : quits line) (back : List String) :
    transcript policy (line :: back) = .empty := by
  rw [transcript, turn_eq, if_pos h]

lemma transcript_cons {line : String} (h : quits line = false) (back : List String) :
    transcript policy (line :: back) =
      answer policy line ++ transcript ((sets? line).getD policy) back := by
  have hfront : ∀ l ∈ [line], quits l = false := by simpa using h
  simpa [spoken_cons, policyAfter_cons] using transcript_append policy hfront back

/-- A session is what its lines answer, up to the first that ends it. -/
theorem transcript_eq (ls : List String) :
    transcript policy ls =
      spoken policy (heard ls) ++ if ls.any quits then .empty else farewell := by
  induction ls generalizing policy with
  | nil => simp [transcript, heard]
  | cons line rest ih =>
    cases hquits : quits line with
    | true =>
      rw [transcript_of_quits policy hquits]
      simp [heard, hquits]
    | false =>
      rw [transcript_cons policy hquits, ih]
      simp [heard, hquits, spoken_cons, Output.append_assoc]

/-- Behind a line that ends the session nothing is read. -/
lemma transcript_append_of_quits {front : List String} (h : ∃ line ∈ front, quits line)
    (back : List String) : transcript policy (front ++ back) = transcript policy front := by
  induction front generalizing policy with
  | nil => simp at h
  | cons line rest ih =>
    cases hquits : quits line with
    | true =>
      rw [List.cons_append, transcript_of_quits policy hquits, transcript_of_quits policy hquits]
    | false =>
      have hrest : ∃ l ∈ rest, quits l := by simpa [hquits] using h
      rw [List.cons_append, transcript_cons policy hquits, transcript_cons policy hquits,
        ih _ hrest]

lemma transcript_blank {line : String} (h : IsBlank line) (front back : List String) :
    transcript policy (front ++ line :: back) = transcript policy (front ++ back) := by
  by_cases hfront : ∃ l ∈ front, quits l
  · rw [transcript_append_of_quits policy hfront, transcript_append_of_quits policy hfront]
  · have hfront : ∀ l ∈ front, quits l = false := by simpa using hfront
    obtain ⟨hquits, hset, hanswer⟩ := h.silent (policyAfter policy front)
    rw [transcript_append policy hfront, transcript_append policy hfront, transcript_cons _ hquits,
      hset, hanswer, Output.empty_append, Option.getD_none]

end Lines

/-! ### The piped text -/

/-- The lines as one text, each with a line end. -/
def piped (ls : List String) : String :=
  String.ofList (ls.flatMap fun line => line.toList ++ ['\n'])

lemma splitOnP_piped {ls : List String} (h : ∀ line ∈ ls, '\n' ∉ line.toList) :
    (ls.flatMap fun line => line.toList ++ ['\n']).splitOnP (· == '\n') =
      ls.map String.toList ++ [[]] := by
  induction ls with
  | nil => simp
  | cons line rest ih =>
    obtain ⟨hline, hrest⟩ := List.forall_mem_cons.1 h
    have hsolid : ∀ c ∈ line.toList, (c == '\n') = false := fun c hc =>
      beq_false_of_ne fun heq => hline (heq ▸ hc)
    rw [List.flatMap_cons, List.append_assoc, List.singleton_append,
      List.splitOnP_append_cons _ _ (by rfl), List.splitOnP_eq_singleton hsolid, ih hrest]
    rfl

lemma lines_piped {ls : List String} (h : ∀ line ∈ ls, '\n' ∉ line.toList) :
    lines (piped ls) = ls := by
  unfold lines piped
  rw [String.toList_ofList, splitOnP_piped h]
  simp

/-- **A session carries its policy and nothing else.** The lines that are piped into it are answered
one after the other, up to the first that ends the session, each under the policy that the last line
before it has set. Blank lines have no effect, nor have lines behind the end. A line that fails, be
it to compile, to be evaluated or to be known, leaves the policy and all that is printed later as
they were. A line that is no command shows the kernel of its formula as if it were asked to. -/
theorem session_carries_policy (policy : Policy) :
    (∀ ls, (∀ line ∈ ls, '\n' ∉ line.toList) →
      session policy (piped ls) = greeting ++ transcript policy ls) ∧
    (∀ ls, transcript policy ls =
      spoken policy (heard ls) ++ if ls.any quits then .empty else farewell) ∧
    (∀ front line back, IsBlank line →
      transcript policy (front ++ line :: back) = transcript policy (front ++ back)) ∧
    (∀ front line back, quits line →
      transcript policy (front ++ line :: back) = transcript policy (front ++ [line])) ∧
    (∀ front line back, Fails (policyAfter policy front) line →
      policyAfter policy (front ++ line :: back) = policyAfter policy (front ++ back) ∧
      ((∀ l ∈ front, quits l = false) →
        transcript policy (front ++ back) =
          spoken policy front ++ transcript (policyAfter policy front) back ∧
        transcript policy (front ++ line :: back) =
          spoken policy front ++ (answer (policyAfter policy front) line ++
            transcript (policyAfter policy front) back))) ∧
    ∀ line, IsFormula line → turn policy (":kernel " ++ line) = turn policy line := by
  refine ⟨fun ls hls => ?_, transcript_eq policy, fun front line back h => ?_,
    fun front line back h => ?_, fun front line back h => ⟨?_, fun hfront => ⟨?_, ?_⟩⟩,
    fun line h => turn_kernel h⟩
  · rw [session, lines_piped hls]
  · exact transcript_blank policy h front back
  · have hends : ∃ l ∈ front ++ [line], quits l := ⟨line, by simp, h⟩
    rw [← transcript_append_of_quits policy hends back, List.append_assoc, List.singleton_append]
  · rw [policyAfter_append, policyAfter_append, policyAfter_cons, h.neutral.2, Option.getD_none]
  · exact transcript_append policy hfront back
  · rw [transcript_append policy hfront, transcript_cons _ h.neutral.1, h.neutral.2,
      Option.getD_none]

/-- A session that is piped in and that turns strict, where a word of the formula is not known: the
line fails under the policy it meets, and the next one is read as if it had not been there. All that
the session prints is given. -/
theorem session_carries_policy_turned_strict :
    session .compat (piped [":strict now", " \t", "z+foo", "z", ":q", "c"]) =
        greeting ++ (spoken .compat [":strict now", " \t", "z+foo", "z"] ++ .empty) ∧
      session .compat (piped [":strict now", " \t", "z+foo", "z", ":q", "c"]) =
        ⟨"fractalc 1.0.0 - fractal expression compiler\n" ++
            "Type :help for commands, :quit to exit.\n\n" ++
            "Strict mode: unrecognized fragments are errors.\n" ++
            "z_r = +z_r;\nz_i = +z_i;\nc_r = +c_r;\nc_i = +c_i;\noutR = +z_r;\noutI = +z_i;\n",
          "Parse error: Unrecognized token 'foo' at position 2\n"⟩ ∧
      transcript .compat ([":strict now"] ++ " \t" :: ["z"]) =
        transcript .compat ([":strict now"] ++ ["z"]) ∧
      transcript .compat (["z"] ++ ":q" :: ["c"]) = transcript .compat (["z"] ++ [":q"]) ∧
      transcript .compat ([":strict now"] ++ "z+foo" :: ["z"]) =
        spoken .compat [":strict now"] ++ (answer .strict "z+foo" ++ transcript .strict ["z"]) ∧
      turn .compat (":kernel " ++ "z") = turn .compat "z" := by
  obtain ⟨hpiped, hspoken, hblank, hquits, hfails, hkernel⟩ := session_carries_policy .compat
  have hcompile : Kernel.compileWith .strict "z+foo" =
      .error (.parse (.unrecognizedToken ⟨2, 5⟩ "foo")) := by
    have hunknown : Formula.parseStrict "z+foo" = .error (.unrecognizedToken ⟨2, 5⟩ "foo") :=
      Formula.parseStrict_eq_error_iff.2 (by decide +kernel)
    rw [Kernel.compileWith, hunknown]
  have hfail : Fails (policyAfter .compat [":strict now"]) "z+foo" :=
    .formula ⟨'z', _, rfl, by decide⟩ hcompile
  have hsession : session .compat (piped [":strict now", " \t", "z+foo", "z", ":q", "c"]) =
      greeting ++ (spoken .compat [":strict now", " \t", "z+foo", "z"] ++ .empty) := by
    have hheard : heard [":strict now", " \t", "z+foo", "z", ":q", "c"] =
        [":strict now", " \t", "z+foo", "z"] := by decide +kernel
    have hends : [":strict now", " \t", "z+foo", "z", ":q", "c"].any quits := by decide +kernel
    rw [hpiped _ (by decide), hspoken, hheard, if_pos hends]
  refine ⟨hsession, hsession.trans (by decide +kernel), hblank _ _ _ ?_, hquits _ _ _ ?_,
    ((hfails _ _ _ hfail).2 ?_).2, hkernel _ ⟨'z', [], by decide, by decide⟩⟩
  · have hblanks : isBlank ' ' ∧ isBlank '\t' := by decide
    simpa [IsBlank] using hblanks
  · decide
  · decide

end EscapeTime.Shell
