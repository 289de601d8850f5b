import CommandFront.Proofs.Escape
import CommandFront.Proofs.PhraseTokens

/-!
# What is in front of the separator

Some questions are about tokens and not about flags: whether a spelling stands anywhere before the
separator, say. On a run they are answered by the phrases of the command line. The front is then
made of the phrases before the command, its name, and the phrases after it; and what a phrase turns
on, the action sees, on whichever side of the command it stands. Where the command is named after
the separator, only the first of these three is in front.

- `CommandLine.front`: the tokens in front of the first separator.
- `Sentence.Valid.separator_not_mem_tokens`: in a sentence that is all of them.
- `App.Dispatches.exists_phrase`: on a run, a token in front of the separator is the name of the
  command, or it belongs to a phrase that the action sees.
-/

namespace CommandFront

namespace CommandLine

/-- The tokens in front of the first separator. -/
def front (tokens : List OsText) : List OsText :=
  tokens.takeWhile (· != Token.separator.toText)

variable {tokens : List OsText} (h : Token.separator.toText ∉ tokens)

include h

theorem front_append (rest : List OsText) : front (tokens ++ rest) = tokens ++ front rest :=
  List.takeWhile_append_of_pos fun _ htoken => bne_iff_ne.mpr fun heq => h (heq ▸ htoken)

/-- Nothing that comes from the separator on is in front of it. -/
theorem front_append_separator (rest : List OsText) :
    front (tokens ++ Token.separator.toText :: rest) = tokens := by
  rw [front_append h]
  exact List.append_nil tokens

theorem front_append_ending (closed : Bool) : front (tokens ++ Token.ending closed) = tokens := by
  cases closed with
  | true => exact front_append_separator h []
  | false =>
    rw [front_append h]
    exact List.append_nil tokens

end CommandLine

/-- A token that could be the value of a flag has another shape than a spelling. -/
theorem Joint.ne_of_fits {name : String} (h : Joint.apart.Fits name) {token : OsText}
    {shape : Token} (hshape : Token.ofText token = shape) (hne : ∀ text, shape ≠ .plain text) :
    token ≠ .ofString name := by
  rintro rfl
  exact hne _ (hshape.symm.trans (Token.ofText_eq_plain_iff.mpr h))

theorem Joint.separator_ne_of_fits {name : String} (h : Joint.apart.Fits name) :
    Token.separator.toText ≠ .ofString name :=
  ne_of_fits h (rfl : Token.ofText Token.separator.toText = .separator) fun _ => Token.noConfusion

/-- No token of a sentence is the separator. -/
theorem Sentence.Valid.separator_not_mem_tokens {α : Type} {r : Registry α} {w : Sentence}
    (hw : w.Valid r) (hr : r.Reachable) (hcommand : Joint.apart.Fits w.command) :
    Token.separator.toText ∉ w.tokens := by
  have hbefore : ∀ p ∈ w.before, p.Valid r.rootLevel := fun p hp => (hw.before p hp).1
  rw [tokens, List.mem_append, List.mem_cons, not_or, not_or]
  exact ⟨Phrase.separator_not_mem_written hr.distinct_rootLevel hbefore,
    Joint.separator_ne_of_fits hcommand,
    Phrase.separator_not_mem_written (hr.distinct_commandLevel w.command) hw.after⟩

namespace App

variable {app : App} {args : List OsText} {command : Command Action} {inv : Invocation}

/-- On a run, a token in front of the separator is the name of the command, or it belongs to a
phrase, and then the action sees the switches of the root level that the phrase turns on. -/
theorem Dispatches.exists_phrase (hrun : app.Dispatches args command inv)
    (h : app.registry.Reachable) (hcommand : Joint.apart.Fits command.name) {token : OsText}
    (hmem : token ∈ CommandLine.front (args.drop 1)) :
    token = .ofString command.name
      ∨ ∃ (level : Level) (p : Phrase), level.Distinct ∧ p.Valid level ∧ token ∈ p.tokens
        ∧ (∀ f ∈ app.registry.rootLevel, f ∈ level)
        ∧ ∀ f ∈ app.registry.rootLevel, f.kind = .switch → (f, .toggle true) ∈ p.given →
          inv.switch f.name = true := by
  have hlevel := h.distinct_rootLevel
  obtain ⟨w, closed, hw, hname, htokens, honce, rfl⟩ | ⟨e, he, -, htokens, honce, rfl⟩ :=
    hrun.exists_route h
  · rw [← hname] at hcommand
    have hown := h.distinct_commandLevel w.command
    have hbefore : ∀ p ∈ w.before, p.Valid app.registry.rootLevel := fun p hp => (hw.before p hp).1
    have hseen : ∀ f ∈ app.registry.rootLevel, f.kind = .switch →
        Phrase.TurnsOn w.after f ∨ Phrase.TurnsOn w.before f →
          (app.invocation command (w.root app.registry) (w.own app.registry)).switch f.name
            = true := by
      intro f hf hkind hon
      have hmem := Registry.mem_commandLevel_of_mem_rootLevel hf w.command
      have hholds := hw.invocation_holds h honce command hmem
      obtain ⟨hswitch, -⟩ := hholds.switch_eq_of_switch (fun c hc => hw.suits hc) hkind
      rw [hswitch, hw.isSome_given?_iff hmem hkind]
      exact hon
    rw [← htokens, CommandLine.front_append_ending (hw.separator_not_mem_tokens h hcommand),
      Sentence.tokens, List.mem_append, List.mem_cons] at hmem
    rcases hmem with hfront | rfl | hback
    · obtain ⟨p, hp, htoken⟩ := List.mem_flatMap.mp hfront
      refine .inr ⟨_, p, hlevel, hbefore p hp, htoken, fun f hf => hf, fun f hf hkind hgiven => ?_⟩
      exact hseen f hf hkind (.inr (List.mem_flatMap.mpr ⟨p, hp, hgiven⟩))
    · exact .inl (congrArg OsText.ofString hname)
    · obtain ⟨p, hp, htoken⟩ := List.mem_flatMap.mp hback
      refine .inr ⟨_, p, hown, hw.after p hp, htoken,
        fun f hf => Registry.mem_commandLevel_of_mem_rootLevel hf w.command,
        fun f hf hkind hgiven => ?_⟩
      exact hseen f hf hkind (.inl (List.mem_flatMap.mpr ⟨p, hp, hgiven⟩))
  · have hbefore : ∀ p ∈ e.before, p.Valid app.registry.rootLevel := fun p hp => (he.before p hp).1
    rw [← htokens, Escape.tokens,
      CommandLine.front_append_separator (Phrase.separator_not_mem_written hlevel hbefore)] at hmem
    obtain ⟨p, hp, htoken⟩ := List.mem_flatMap.mp hmem
    refine .inr ⟨_, p, hlevel, hbefore p hp, htoken, fun f hf => hf, fun f hf hkind hgiven => ?_⟩
    have hholds := he.invocation_holds h honce command hf
    obtain ⟨hswitch, -⟩ := hholds.switch_eq_of_switch (fun c hc => he.suits hc) hkind
    rw [hswitch, Phrase.isSome_lookup_iff_turnsOn hbefore hkind]
    exact List.mem_flatMap.mpr ⟨p, hp, hgiven⟩

end App

end CommandFront
