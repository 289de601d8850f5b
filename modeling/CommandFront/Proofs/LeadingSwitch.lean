import CommandFront.Proofs.DebugScan
import CommandFront.Proofs.HelpRequests

/-!
# A switch in front of everything

A global switch that is not given on a command line may be put in front of it.

In front of everything else, a switch meets no flag that waits for a value, and the separator has
not been seen yet. So it is a phrase of the root level, and the rest of the command line is read as
before. It has to be a new one, as no flag may come twice on a level; whether it is can be seen from
the tokens, since a switch with one spelling is turned on by this one token only. After the
separator the token may stand again as an operand.

- `Registry.PlainSwitch`: a global switch with one spelling.
- `Scan.entries_noted_cons_of_ne`: what one flag is given is held under its name alone.
- `Sentence.leadBy`, `Escape.leadBy`: the command lines with the switch in front.
- `App.Dispatches.exists_leadBy`: the command line with the switch runs the same command, and the
  action sees the same under all other names.
-/

namespace CommandFront

/-! ## Plain switches -/

/-- A switch that is accepted everywhere and has one spelling. -/
structure Registry.PlainSwitch {α : Type} (r : Registry α) (f : Flag) : Prop where
  mem : f ∈ r.rootLevel
  kind : f.kind = .switch
  short : f.short = none
  aliases : f.aliases = []
  no_equals : '=' ∉ f.name.toList

namespace Phrase

/-- A switch by its name. -/
def ofName (f : Flag) : Phrase :=
  .long f f.name

variable {α : Type} {r : Registry α} {f : Flag} (hf : r.PlainSwitch f)

include hf

theorem valid_ofName : (ofName f).Valid r.rootLevel :=
  ⟨⟨hf.mem, f.name_mem_longNames, hf.no_equals⟩, hf.kind⟩

/-- If the spelling of the switch is not among the tokens of some phrases, its name is not among
those of the flags that they give. -/
theorem not_mem_namesOf (hr : r.Reachable) {phrases : List Phrase}
    (h : ∀ p ∈ phrases, p.Valid r.rootLevel) (hnew : (ofName f).word ∉ written phrases) :
    f.name ∉ namesOf (occurrences phrases) := by
  have hlevel := hr.distinct_rootLevel
  intro hmem
  obtain ⟨⟨g, content⟩, hg, hname⟩ := List.mem_map.mp hmem
  obtain ⟨hroot, hsuits⟩ := mem_level_of_mem_occurrences h hg
  obtain rfl := hlevel.eq_of_name_eq hroot hf.mem hname
  rw [FlagContent.Suits, hf.kind] at hsuits
  rw [hsuits] at hg
  exact hnew ((turnsOn_iff_mem_written hlevel h hf.mem hf.kind hf.short hf.aliases
    hf.no_equals).mp hg)

end Phrase

/-! ## What is held -/

/-- What one flag is given is held under its name alone. -/
theorem Scan.entries_noted_cons_of_ne (level : Level) (g : Flag × FlagContent)
    (l : List (Flag × FlagContent)) {name : String} (h : name ≠ g.1.name) :
    ((∅ : Scan).noted (g :: l)).entries level name = ((∅ : Scan).noted l).entries level name := by
  have hgiven : ((∅ : Scan).noted (g :: l)).given.lookup name
      = ((∅ : Scan).noted l).given.lookup name := by
    rw [given_noted, given_noted, List.map_cons, List.reverse_cons, List.lookup_append,
      AssocList.lookup_cons, if_neg h]
    exact Option.or_none
  unfold entries
  rw [hgiven]

/-- What is shown under a name depends on what the levels hold under it alone. -/
theorem Invocation.lookups_congr {inv inv' : Invocation} {name : String}
    (h : inv'.root name = inv.root name ∧ inv'.own name = inv.own name) :
    inv'.value? name = inv.value? name ∧ inv'.explicitValue? name = inv.explicitValue? name
      ∧ inv'.switch name = inv.switch name := by
  unfold value? explicitValue? switch Matches.value? Matches.explicitValue? Matches.switch
  rw [h.1, h.2]
  exact ⟨rfl, rfl, rfl⟩

/-! ## The command lines with the switch -/

namespace Sentence

variable {α : Type} {r : Registry α} {w : Sentence} {f : Flag}

/-- The sentence with a switch in front. -/
def leadBy (w : Sentence) (f : Flag) : Sentence :=
  { w with before := .ofName f :: w.before }

theorem Valid.leadBy (hw : w.Valid r) (hf : r.PlainSwitch f)
    (hundeclared : r.Undeclared (Phrase.ofName f).word) : (w.leadBy f).Valid r :=
  ⟨List.forall_mem_cons.mpr ⟨⟨Phrase.valid_ofName hf, hundeclared⟩, hw.before⟩, hw.registered,
    hw.after⟩

theorem tokens_leadBy (w : Sentence) (f : Flag) :
    (w.leadBy f).tokens = (Phrase.ofName f).word :: w.tokens := rfl

theorem Once.leadBy (honce : w.Once) (hnew : f.name ∉ namesOf (Phrase.occurrences w.before)) :
    (w.leadBy f).Once :=
  ⟨List.nodup_cons.mpr ⟨hnew, honce.1⟩, honce.2⟩

/-- Under all other names the levels hold the same. -/
theorem levels_leadBy {name : String} (h : name ≠ f.name) :
    (w.leadBy f).root r name = w.root r name ∧ (w.leadBy f).own r name = w.own r name := by
  have houter : (w.leadBy f).outer r name = w.outer r name :=
    Scan.entries_noted_cons_of_ne r.rootLevel (f, .toggle true) _ h
  have hinner : (w.leadBy f).inner r = w.inner r := rfl
  unfold root own Matches.share Matches.merge
  rw [houter, hinner]
  exact ⟨rfl, rfl⟩

end Sentence

namespace Escape

variable {α : Type} {r : Registry α} {e : Escape} {f : Flag}

/-- The command line with a switch in front. -/
def leadBy (e : Escape) (f : Flag) : Escape :=
  { e with before := .ofName f :: e.before }

theorem Valid.leadBy (he : e.Valid r) (hf : r.PlainSwitch f)
    (hundeclared : r.Undeclared (Phrase.ofName f).word) : (e.leadBy f).Valid r :=
  ⟨List.forall_mem_cons.mpr ⟨⟨Phrase.valid_ofName hf, hundeclared⟩, he.before⟩, he.separator⟩

theorem tokens_leadBy (e : Escape) (f : Flag) :
    (e.leadBy f).tokens = (Phrase.ofName f).word :: e.tokens := rfl

theorem Once.leadBy (honce : e.Once) (hnew : f.name ∉ namesOf (Phrase.occurrences e.before)) :
    (e.leadBy f).Once :=
  List.nodup_cons.mpr ⟨hnew, honce⟩

theorem levels_leadBy {name : String} (h : name ≠ f.name) :
    (e.leadBy f).root r name = e.root r name ∧ (e.leadBy f).own r name = e.own r name := by
  have houter : (e.leadBy f).outer r name = e.outer r name :=
    Scan.entries_noted_cons_of_ne r.rootLevel (f, .toggle true) _ h
  have hoperands : (e.leadBy f).operands = e.operands := rfl
  unfold root own Matches.share Matches.merge
  rw [houter, hoperands]
  exact ⟨rfl, rfl⟩

end Escape

/-! ## The run -/

namespace App

variable {app : App} {command : Command Action} {inv : Invocation} {program : OsText}
  {rest : List OsText} {f : Flag}

section PlainSwitch

variable (h : app.registry.Reachable)
  (hnames : ∀ name ∈ app.registry.commands.names, name.toList.head? ≠ some '-')
  (hf : app.registry.PlainSwitch f)

include h hnames hf

/-- On a run, a plain switch is on exactly if it is in front of the separator. -/
theorem Dispatches.switch_iff_word_mem (hrun : app.Dispatches (program :: rest) command inv) :
    inv.switch f.name = true ↔ (Phrase.ofName f).word ∈ CommandLine.front rest := by
  have hcommand : Joint.apart.Fits command.name := .inr (hnames _ (hrun.name_mem_names h))
  exact hrun.switch_iff_mem_front h hcommand hf.mem hf.kind hf.short hf.aliases hf.no_equals

/-- On a run, the switch in front is seen. -/
theorem Dispatches.switch_of_lead
    (hrun : app.Dispatches (program :: (Phrase.ofName f).word :: rest) command inv) :
    inv.switch f.name = true := by
  have hfirst : Token.separator.toText ∉ Phrase.written [Phrase.ofName f] :=
    Phrase.separator_not_mem_written h.distinct_rootLevel
      (List.forall_mem_singleton.mpr (Phrase.valid_ofName hf))
  refine (hrun.switch_iff_word_mem h hnames hf).mpr ?_
  have hfront := CommandLine.front_append hfirst rest
  show (Phrase.ofName f).word ∈ CommandLine.front (Phrase.written [Phrase.ofName f] ++ rest)
  rw [hfront]
  exact List.mem_cons_self

/-- Where no command has a name that starts with a hyphen: a plain switch that is not in front of
the separator may be put in front of everything. The same command runs, and the action sees the
switch, and the same under all other names. -/
theorem Dispatches.exists_leadBy (hrun : app.Dispatches (program :: rest) command inv)
    (hhelp : Flag.help.name ≠ f.name)
    (hnew : (Phrase.ofName f).word ∉ CommandLine.front rest) :
    ∃ inv', app.Dispatches (program :: (Phrase.ofName f).word :: rest) command inv'
      ∧ inv'.switch f.name = true
      ∧ ∀ name, name ≠ f.name → inv'.root name = inv.root name ∧ inv'.own name = inv.own name := by
  have hget := hrun.get?_eq h
  have hoff := hrun.switch_help
  have hcommand : Joint.apart.Fits command.name := .inr (hnames _ (hrun.name_mem_names h))
  have hundeclared := Registry.undeclared_of_head? h hnames (Phrase.ofName f).head?_word
  obtain ⟨w, closed, hw, hname, htokens, honce, rfl⟩ | ⟨e, he, hname, htokens, honce, rfl⟩ :=
    hrun.exists_route h
  · have hrest : rest = w.tokens ++ Token.ending closed := htokens.symm
    rw [hrest, CommandLine.front_append_ending (hw.separator_not_mem_tokens h (hname ▸ hcommand)),
      Sentence.tokens, List.mem_append, not_or] at hnew
    have hfirst := Phrase.not_mem_namesOf hf h (fun p hp => (hw.before p hp).1) hnew.1
    have hvalid := hw.leadBy hf hundeclared
    have hled : app.Dispatches (program :: (Phrase.ofName f).word :: rest) command
        (app.invocation command ((w.leadBy f).root app.registry)
          ((w.leadBy f).own app.registry)) := by
      refine (dispatches_iff_of_parse (fun line => ?_) hvalid.registered).mpr
        ⟨honce.leadBy hfirst, hname ▸ hget, rfl, ?_⟩
      · rw [hrest]
        exact hvalid.parse_ending_eq_ok_iff h closed
      · exact (Invocation.lookups_congr (Sentence.levels_leadBy hhelp)).2.2.trans hoff
    exact ⟨_, hled, hled.switch_of_lead h hnames hf, fun name => Sentence.levels_leadBy⟩
  · have hrest : rest = e.tokens := htokens.symm
    have hbefore : ∀ p ∈ e.before, p.Valid app.registry.rootLevel := fun p hp => (he.before p hp).1
    rw [hrest, Escape.tokens, CommandLine.front_append_separator
      (Phrase.separator_not_mem_written h.distinct_rootLevel hbefore)] at hnew
    have hfirst := Phrase.not_mem_namesOf hf h hbefore hnew
    have hvalid := he.leadBy hf hundeclared
    have hregistered : app.registry.commands.contains (e.leadBy f).command = true := by
      show app.registry.commands.contains e.command = true
      rw [hname]
      exact h.consistent.contains_iff.mpr (hrun.name_mem_names h)
    have hled : app.Dispatches (program :: (Phrase.ofName f).word :: rest) command
        (app.invocation command ((e.leadBy f).root app.registry)
          ((e.leadBy f).own app.registry)) := by
      refine (dispatches_escape_iff hvalid h hregistered ?_).mpr
        ⟨honce.leadBy hfirst, hname ▸ hget, rfl, ?_⟩
      · rw [hrest]
        exact Escape.tokens_leadBy e f
      · exact (Invocation.lookups_congr (Escape.levels_leadBy hhelp)).2.2.trans hoff
    exact ⟨_, hled, hled.switch_of_lead h hnames hf, fun name => Escape.levels_leadBy⟩

end PlainSwitch

end App

end CommandFront
