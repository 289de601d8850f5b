import CommandFront.Proofs.Admission
import CommandFront.Proofs.BraceFree

/-!
# The sections of the help

A help text is made of sections, each of them a heading with its lines, and shows what is registered
in the order of registration.

The text of the help comes from a template in which eight slots are filled one after the other, and
a value that is filled in early is searched for the later slots. Texts that keep braces apart are
not touched by that, and neither is a text that is put together from them, as long as no two braces
meet at a seam. Under this condition the help is what its sections say. The help of a command has no
template and needs no condition.

- `HelpSection.layout`: sections with blank lines between them.
- `App.shownFlags`: the flags of a scope that a help text shows.
- `App.overview`, `App.details`: the sections of the help of an application and of a command.
- `App.help_eq_layout`, `App.commandHelp_eq_layout`: the texts are laid out from these sections.
- `App.shownFlags_register`: which registrations leave a help text as it is.
- `App.help_shows_registry`: what the help shows.
-/

namespace CommandFront

/-! ## Sections and rows -/

/-- A heading and the lines below it. -/
structure HelpSection where
  /-- The heading. -/
  heading : String
  /-- The lines. -/
  lines : List String
deriving DecidableEq, Repr

namespace HelpSection

/-- A section as text. -/
def text (s : HelpSection) : String :=
  s.heading ++ ":\n" ++ String.join (s.lines.map (· ++ "\n"))

/-- Sections with blank lines between them. -/
def layout (sections : List HelpSection) : String :=
  "\n".intercalate (sections.map text)

/-- A section after the first one has a blank line in front. -/
theorem layout_cons (s : HelpSection) (rest : List HelpSection) :
    layout (s :: rest) = s.text ++ String.join (rest.map fun t => "\n" ++ t.text) := by
  induction rest generalizing s with
  | nil => exact (String.append_empty).symm
  | cons next others ih =>
    have hlayout : layout (s :: next :: others) = s.text ++ "\n" ++ layout (next :: others) :=
      String.intercalate_cons_cons
    rw [hlayout, ih, List.map_cons, String.join_cons]
    simp only [String.append_assoc]

end HelpSection

namespace Table

/-- The rows without line breaks. The left column is as wide as the longest text in it. -/
def lines (t : Table) : List String :=
  let width := (t.map fun row => row.1.length).max?.getD 0
  t.map fun row =>
    "  " ++ row.1 ++ .ofList (List.replicate (width - row.1.length) ' ') ++ "  " ++ row.2

/-- The left column is as wide as its longest text, or empty where there is no row. -/
theorem width_eq (t : Table) : t.width = (t.map fun row => row.1.length).max?.getD 0 := by
  rw [width]
  cases t with
  | nil => rfl
  | cons row rest =>
    rw [List.map_cons, List.max?_cons', List.foldl_cons, Nat.zero_max]
    rfl

/-- A table is its lines. -/
theorem render_eq (t : Table) : t.render = String.join (t.lines.map (· ++ "\n")) := by
  rw [render, lines, width_eq, List.map_map]
  rfl

end Table

/-- The row of a flag is what the flag is written as, and what is said of it. -/
theorem Flag.row_eq : row = fun f => (f.synopsis, f.helpLine) := rfl

namespace App

variable {app : App}

/-- The flags of a scope that a help text shows, in the order of registration. -/
def shownFlags (app : App) (scope : FlagScope) : List Flag :=
  app.registry.flags.flags.filter fun f => decide (f.scope = scope ∧ f.hidden = false)

/-- The rows of the commands in the order of registration, and last that of the help command if none
of that name is registered. -/
def commandRows (app : App) : Table :=
  app.registry.commands.commands.map (fun c => (c.name, c.usage))
    ++ if helpCommand ∈ app.registry.commands.names then []
      else [(helpCommand, "Shows a list of commands or help for one command")]

/-- The sections of the help of an application. -/
def overview (app : App) (snapshot : Snapshot) : List HelpSection :=
  let globals := app.shownFlags .everywhere
  [⟨"NAME", ["  " ++ app.name ++ " - " ++ app.usage]⟩,
    ⟨"DESCRIPTION", ["  " ++ app.description]⟩,
    ⟨"USAGE", ["  " ++ app.name ++ (if globals = [] then "" else " [global flags]")
      ++ " command [command flags] [arguments...]"]⟩,
    ⟨"COMMANDS", app.commandRows.lines⟩]
  ++ (if globals = [] then []
    else [⟨"GLOBAL FLAGS", Table.lines
      (globals.map (fun f => (f.synopsis, f.helpLine)) ++ [("--help, -h", "show help")])⟩])
  ++ ⟨"VERSION", ["  " ++ app.version]⟩
    :: [("MEM", snapshot.memory), ("PLATFORM", snapshot.platform),
      ("RUNTIME", snapshot.runtime)].map fun entry => ⟨entry.1, ["  " ++ entry.2]⟩

/-- The sections of the help of a command. -/
def details (app : App) (command : Command Action) : List HelpSection :=
  let own := app.shownFlags (.command command.name)
  [⟨"NAME", ["  " ++ app.name ++ " " ++ command.name ++ " - " ++ command.usage]⟩,
    ⟨"USAGE", ["  " ++ app.name ++ " " ++ command.name
      ++ (if own = [] then "" else " [command flags]") ++ " [arguments...]"]⟩]
  ++ (if command.description = "" then []
    else [⟨"DESCRIPTION", ["  " ++ command.description]⟩])
  ++ (if own = [] then []
    else [⟨"FLAGS", Table.lines (own.map fun f => (f.synopsis, f.helpLine))⟩])

/-! ## What is shown -/

/-- The help of the application shows the global flags that are not hidden. -/
theorem visibleGlobals_eq (app : App) : app.visibleGlobals = app.shownFlags .everywhere := by
  rw [visibleGlobals, visibleFlags, FlagRegistry.globals, List.filter_filter]
  refine List.filter_congr fun f _ => ?_
  have hglobal : decide f.IsGlobal = decide (f.scope = .everywhere) :=
    decide_eq_decide.mpr Iff.rfl
  rw [hglobal, Bool.eq_iff_iff]
  simp [and_comm]

/-- The help of a command shows its own flags that are not hidden. -/
theorem visibleOwn_eq (app : App) (command : String) :
    app.visibleOwn command = app.shownFlags (.command command) := by
  rw [visibleOwn, visibleFlags, FlagRegistry.forCommand, List.filter_filter]
  refine List.filter_congr fun f _ => ?_
  rw [Bool.eq_iff_iff]
  simp [and_comm]

/-- The help command has a row of its own unless a command has taken its name. -/
theorem commandTable_eq (h : app.registry.commands.Consistent) :
    app.commandTable = app.commandRows := by
  have hcontains : app.registry.hasHelpCommand = true
      ↔ helpCommand ∉ app.registry.commands.names := by
    rw [Registry.hasHelpCommand, Bool.not_eq_true', ← Bool.not_eq_true, h.contains_iff]
  rw [commandTable, commandRows]
  by_cases hnone : helpCommand ∈ app.registry.commands.names
  · rw [if_pos hnone, if_neg fun hhelp => hcontains.mp hhelp hnone]
  · rw [if_neg hnone, if_pos (hcontains.mpr hnone)]
    rfl

/-- The help of a command is laid out from its sections. -/
theorem commandHelp_eq_layout (app : App) (command : Command Action) :
    app.commandHelp command = HelpSection.layout (app.details command) := by
  unfold commandHelp details
  rw [visibleOwn_eq]
  dsimp only
  generalize app.shownFlags (.command command.name) = own
  by_cases hown : own = [] <;> by_cases hdescription : command.description = "" <;>
    simp [HelpSection.layout_cons, HelpSection.text, hown, hdescription, Table.render_eq,
      Flag.row_eq, ← String.toList_inj]

/-! ## What is filled in -/

/-- The template without changes as labels and slots in turn. -/
def standardParts : List (String × String) :=
  [("NAME:\n  ", "name"), (" - ", "usage"), ("\n\nDESCRIPTION:\n  ", "description"),
    ("\n\nUSAGE:\n  ", "usage_line"), ("\n\nCOMMANDS:\n", "commands"), ("\n", "global_flags"),
    ("VERSION:\n  ", "version"), ("\n\n", "diagnostics")]

/-- The standard template is made of labels and slots in turn. -/
theorem standardTemplate_eq :
    standardTemplate = String.join (standardParts.map fun part => part.1 ++ slot part.2) := by
  unfold standardTemplate standardParts
  simp only [List.map_cons, List.map_nil, String.join_cons, String.join_nil, String.append_assoc,
    String.append_empty]

theorem label_standardParts :
    ∀ part ∈ standardParts, Text.Label part.1 ∧ Piece.IsPlain part.2 := by
  decide

end App

/-! ## Texts that keep braces apart -/

open Text (Apart Tight tight_of_not_mem)

/-- The rows of a table are apart if their columns are. -/
theorem Table.tight_lines {t : Table} (h : ∀ row ∈ t, Apart row.1 ∧ Apart row.2) {line : String}
    (hline : line ∈ t.lines) : Tight line := by
  obtain ⟨row, hrow, rfl⟩ := List.mem_map.mp hline
  obtain ⟨hleft, hright⟩ := h row hrow
  have hindent : Text.Label "  " := by decide
  have hpadding : ∀ n, Tight (.ofList (List.replicate n ' ')) := by
    refine fun n => tight_of_not_mem fun hmem => ?_
    rw [String.toList_ofList] at hmem
    exact absurd (List.eq_of_mem_replicate hmem) (by decide)
  rw [String.append_assoc]
  exact ((hindent.append hleft).append (hpadding _)).append (hindent.append hright)

/-- A table of texts that keep braces apart does so too. -/
theorem Table.tight_render {t : Table} (h : ∀ row ∈ t, Apart row.1 ∧ Apart row.2) :
    Tight t.render := by
  rw [render_eq]
  refine Text.tight_join fun text hmem => ?_
  obtain ⟨line, hline, rfl⟩ := List.mem_map.mp hmem
  exact (tight_lines h hline).append (tight_of_not_mem (by decide))

/-- The texts of a flag that a help text may show. -/
def Flag.texts (f : Flag) : List String :=
  f.longNames ++ f.valueName.toList ++ f.description :: f.default.toList

namespace Flag

variable {f : Flag} (h : ∀ text ∈ f.texts, Apart text)

include h

/-- What the help says of a flag keeps braces apart if the texts of the flag do. -/
theorem apart_helpLine : Apart f.helpLine := by
  have hdescription : Apart f.description := h _ (by simp [texts])
  unfold helpLine
  cases hdefault : f.default with
  | none => exact hdescription
  | some text =>
    have htext : Apart text := h _ (by simp [texts, hdefault])
    have hlabel : Text.Label " (default: \"" := by decide
    have hclosed : Tight "\")" := tight_of_not_mem (by decide)
    exact (hdescription.append_label hlabel htext).append hclosed

/-- So does what the flag is written as. -/
theorem apart_synopsis : Apart f.synopsis := by
  have htail : Tight ((f.placeholder?.map (" " ++ ·)).getD "") := by
    unfold placeholder?
    cases f.kind with
    | switch =>
      have hempty : Tight "" := tight_of_not_mem (by decide)
      exact hempty
    | value =>
      have hlabel : Text.Label " " := by decide
      refine hlabel.append ?_
      cases hname : f.valueName with
      | none => exact (by decide : Apart "value")
      | some text => exact h _ (by simp [texts, hname])
  refine (Text.tight_intercalate (by decide) fun text hmem => ?_).apart
  rcases List.mem_append.mp hmem with hlong | hshort
  · obtain ⟨name, hname, rfl⟩ := List.mem_map.mp hlong
    have hlabel : Text.Label "--" := by decide
    exact (hlabel.append (h name (by simp [texts, hname]))).append htail
  · obtain ⟨c, -, rfl⟩ := List.mem_map.mp hshort
    have hlabel : Text.Label "-" := by decide
    exact (hlabel.append (Text.apart_singleton c)).append htail

end Flag

namespace App

variable {app : App}

/-- The texts that the help of an application is made of. -/
def texts (app : App) (snapshot : Snapshot) : List String :=
  [app.name, app.usage, app.description, app.version, snapshot.memory, snapshot.platform,
      snapshot.runtime]
    ++ app.registry.commands.commands.flatMap (fun c => [c.name, c.usage])
    ++ (app.shownFlags .everywhere).flatMap Flag.texts

section Fillings

variable {snapshot : Snapshot} (h : ∀ text ∈ app.texts snapshot, Apart text)

include h

theorem apart_usageLine : Apart app.usageLine := by
  have hname : Apart app.name := h _ (by simp [texts])
  unfold usageLine
  split
  · exact (hname.append (tight_of_not_mem (by decide))).append (tight_of_not_mem (by decide))
  · exact (hname.append (tight_of_not_mem (by decide))).append (tight_of_not_mem (by decide))

theorem apart_commandTable : Apart app.commandTable.render := by
  refine (Table.tight_render fun row hrow => ?_).apart
  rcases List.mem_append.mp hrow with hcommand | hhelp
  · obtain ⟨c, hc, rfl⟩ := List.mem_map.mp hcommand
    have hmem : ∀ text ∈ [c.name, c.usage], text ∈ app.texts snapshot := by
      intro text htext
      refine List.mem_append_left _ (List.mem_append_right _ ?_)
      exact List.mem_flatMap.mpr ⟨c, hc, htext⟩
    exact ⟨h _ (hmem _ (by simp)), h _ (hmem _ (by simp))⟩
  · split at hhelp
    · obtain rfl := List.mem_singleton.mp hhelp
      decide
    · cases hhelp

/-- The section of the global flags keeps braces apart, as its rows do. -/
theorem apart_globalFlagSection : Apart app.globalFlagSection := by
  unfold globalFlagSection
  split
  · decide
  have hheading : Tight "GLOBAL FLAGS:\n" := tight_of_not_mem (by decide)
  have hrows : Tight (Table.render
      (app.visibleGlobals.map Flag.row ++ [("--help, -h", "show help")])) := by
    refine Table.tight_render fun row hrow => ?_
    rcases List.mem_append.mp hrow with hflag | hhelp
    · obtain ⟨f, hf, rfl⟩ := List.mem_map.mp hflag
      rw [visibleGlobals_eq] at hf
      have hflag : ∀ text ∈ f.texts, Apart text := by
        intro text htext
        exact h text (List.mem_append_right _ (List.mem_flatMap.mpr ⟨f, hf, htext⟩))
      exact ⟨Flag.apart_synopsis hflag, Flag.apart_helpLine hflag⟩
    · obtain rfl := List.mem_singleton.mp hhelp
      decide
  exact ((hheading.append hrows).append (tight_of_not_mem (by decide))).apart

/-- The sections of a snapshot keep braces apart if its values do. -/
theorem apart_sections : Apart snapshot.sections := by
  refine (Text.tight_intercalate (by decide) fun text hmem => ?_).apart
  obtain ⟨entry, hentry, rfl⟩ := List.mem_map.mp hmem
  have hkey : ∀ key ∈ Snapshot.keys snapshot, Text.Label (key ++ ":\n  ") := by
    show ∀ key ∈ ["MEM", "PLATFORM", "RUNTIME"], Text.Label (key ++ ":\n  ")
    decide
  have hvalue : ∀ entry ∈ snapshot.entries, Apart entry.2 := by
    intro entry hentry
    simp only [Snapshot.entries, List.mem_cons, List.not_mem_nil, or_false] at hentry
    rcases hentry with rfl | rfl | rfl <;> exact h _ (by simp [texts])
  exact ((hkey entry.1 (List.mem_map_of_mem hentry)).append (hvalue entry hentry)).append
    (tight_of_not_mem (by decide))

/-- What is filled into the template keeps braces apart. -/
theorem apart_of_mem_parts : ∀ part ∈ standardParts,
    ∃ value, (app.fillings snapshot).lookup part.2 = some value ∧ Apart value := by
  intro part hpart
  simp only [standardParts, List.mem_cons, List.not_mem_nil, or_false] at hpart
  rcases hpart with rfl | rfl | rfl | rfl | rfl | rfl | rfl | rfl
  · exact ⟨_, rfl, h _ (by simp [texts])⟩
  · exact ⟨_, rfl, h _ (by simp [texts])⟩
  · exact ⟨_, rfl, h _ (by simp [texts])⟩
  · exact ⟨_, rfl, apart_usageLine h⟩
  · exact ⟨_, rfl, apart_commandTable h⟩
  · exact ⟨_, rfl, apart_globalFlagSection h⟩
  · exact ⟨_, rfl, h _ (by simp [texts])⟩
  · exact ⟨_, rfl, apart_sections h⟩

end Fillings

/-- The values in their places. -/
theorem map_standardParts (app : App) (snapshot : Snapshot) :
    (standardParts.map fun part => part.1 ++ ((app.fillings snapshot).lookup part.2).getD "")
      = ["NAME:\n  " ++ app.name, " - " ++ app.usage, "\n\nDESCRIPTION:\n  " ++ app.description,
        "\n\nUSAGE:\n  " ++ app.usageLine, "\n\nCOMMANDS:\n" ++ app.commandTable.render,
        "\n" ++ app.globalFlagSection, "VERSION:\n  " ++ app.version,
        "\n\n" ++ snapshot.sections] := rfl

/-- The help of an application is laid out from its sections, if the texts that it is made of keep
braces apart. -/
theorem help_eq_layout {snapshot : Snapshot} (hcommands : app.registry.commands.Consistent)
    (htemplate : app.template = standardTemplate)
    (h : ∀ text ∈ app.texts snapshot, Apart text) :
    app.help snapshot = HelpSection.layout (app.overview snapshot) := by
  have hnames : ∀ filling ∈ app.fillings snapshot, Piece.IsPlain filling.1 :=
    fun filling hmem => isPlain_of_mem_fillings app snapshot _ (List.mem_map_of_mem hmem)
  have hfilled := Piece.foldl_fill_weave label_standardParts hnames (apart_of_mem_parts h)
  rw [help, htemplate, standardTemplate_eq, hfilled, map_standardParts]
  have hsections : snapshot.sections
      = "MEM:\n  " ++ snapshot.memory ++ "\n\nPLATFORM:\n  " ++ snapshot.platform
        ++ "\n\nRUNTIME:\n  " ++ snapshot.runtime ++ "\n" := by
    simp [Snapshot.sections, Snapshot.entries, Snapshot.block, ← String.toList_inj]
  unfold usageLine globalFlagSection overview
  rw [visibleGlobals_eq, commandTable_eq hcommands]
  dsimp only
  generalize app.shownFlags .everywhere = globals
  by_cases hglobals : globals = [] <;>
    simp [HelpSection.layout_cons, HelpSection.text, hglobals, hsections, Table.render_eq,
      Flag.row_eq, ← String.toList_inj]

/-! ## Registrations -/

/-- Flags of a scope are shown exactly if one of them is not hidden. -/
theorem shownFlags_ne_nil_iff {scope : FlagScope} : app.shownFlags scope ≠ []
    ↔ ∃ f ∈ app.registry.flags.flags, f.scope = scope ∧ f.hidden = false := by
  rw [Ne, shownFlags, List.filter_eq_nil_iff]
  simp

section Register

variable (h : app.registry.Reachable) {flag : Flag} {extended : Registry Action}
  (hok : app.registry.registerFlag flag = .ok extended)

include h hok

/-- A flag that is hidden, or of another scope, is not shown. -/
theorem shownFlags_register {scope : FlagScope} (hother : flag.hidden = true ∨ flag.scope ≠ scope) :
    ({ app with registry := extended } : App).shownFlags scope = app.shownFlags scope := by
  obtain ⟨-, -, rfl⟩ := (Registry.registerFlag_eq_ok_iff h.consistent).mp hok
  have hnot : ¬(flag.scope = scope ∧ flag.hidden = false) := by
    rintro ⟨hscope, hhidden⟩
    rcases hother with hflag | hflag
    · rw [hhidden] at hflag
      cases hflag
    · exact hflag hscope
  show (app.registry.flags.flags ++ [flag]).filter _ = _
  rw [List.filter_append, List.filter_cons_of_neg (by simpa using hnot), List.filter_nil,
    List.append_nil]
  rfl

/-- A flag that the help does not show leaves it as it is, whatever the template. -/
theorem help_register (hother : flag.hidden = true ∨ ¬flag.IsGlobal) (snapshot : Snapshot) :
    ({ app with registry := extended } : App).help snapshot = app.help snapshot := by
  have hshown : ({ app with registry := extended } : App).visibleGlobals = app.visibleGlobals := by
    rw [visibleGlobals_eq, visibleGlobals_eq]
    exact shownFlags_register h hok hother
  obtain ⟨-, -, hextended⟩ := (Registry.registerFlag_eq_ok_iff h.consistent).mp hok
  have hcommands : ({ app with registry := extended } : App).commandTable = app.commandTable := by
    rw [hextended]
    rfl
  unfold help fillings usageLine globalFlagSection
  rw [hshown, hcommands]

/-- So does a flag that the help of a command does not show. -/
theorem commandHelp_register {command : Command Action}
    (hother : flag.hidden = true ∨ flag.scope ≠ .command command.name) :
    ({ app with registry := extended } : App).commandHelp command = app.commandHelp command := by
  rw [commandHelp_eq_layout, commandHelp_eq_layout, details, details,
    shownFlags_register h hok hother]

end Register

/-- Whatever registrations lead to the registry: if the template is the standard one, and no text
that the help is made of has two opening braces side by side, then the help is laid out from its
sections. It has a section of global flags, and the usage line says so, exactly if some global flag
is not hidden. Registering a hidden flag, or one of a command, does not change it. Likewise the help
of a command is laid out from its sections, with one of flags exactly if some flag of the command is
not hidden, and it does not change with a flag that is global, hidden or of another command. -/
theorem help_shows_registry (h : app.registry.Reachable) (snapshot : Snapshot) :
    (app.template = standardTemplate → (∀ text ∈ app.texts snapshot, Apart text) →
        app.help snapshot = HelpSection.layout (app.overview snapshot))
      ∧ ((∃ s ∈ app.overview snapshot, s.heading = "GLOBAL FLAGS")
        ↔ ∃ f ∈ app.registry.flags.flags, f.scope = .everywhere ∧ f.hidden = false)
      ∧ (⟨"USAGE", ["  " ++ app.name ++ " [global flags]"
            ++ " command [command flags] [arguments...]"]⟩ ∈ app.overview snapshot
        ↔ ∃ f ∈ app.registry.flags.flags, f.scope = .everywhere ∧ f.hidden = false)
      ∧ (∀ flag extended, app.registry.registerFlag flag = .ok extended →
        flag.hidden = true ∨ ¬flag.IsGlobal →
          ({ app with registry := extended } : App).help snapshot = app.help snapshot)
      ∧ ∀ command ∈ app.registry.commands.commands,
        app.commandHelp command = HelpSection.layout (app.details command)
          ∧ ((∃ s ∈ app.details command, s.heading = "FLAGS")
            ↔ ∃ f ∈ app.registry.flags.flags, f.scope = .command command.name ∧ f.hidden = false)
          ∧ (⟨"USAGE", ["  " ++ app.name ++ " " ++ command.name ++ " [command flags]"
              ++ " [arguments...]"]⟩ ∈ app.details command
            ↔ ∃ f ∈ app.registry.flags.flags, f.scope = .command command.name ∧ f.hidden = false)
          ∧ ∀ flag extended, app.registry.registerFlag flag = .ok extended →
            flag.hidden = true ∨ flag.scope ≠ .command command.name →
              ({ app with registry := extended } : App).commandHelp command
                = app.commandHelp command := by
  refine ⟨help_eq_layout h.consistent, ?_, ?_, fun flag extended hok hother =>
    help_register h hok hother snapshot, fun command _ => ⟨commandHelp_eq_layout app command, ?_,
      ?_, fun flag extended hok hother => commandHelp_register h hok hother⟩⟩
  · rw [← shownFlags_ne_nil_iff]
    by_cases hnone : app.shownFlags .everywhere = [] <;> simp [overview, hnone]
  · rw [← shownFlags_ne_nil_iff]
    by_cases hnone : app.shownFlags .everywhere = [] <;> simp [overview, hnone]
  · rw [← shownFlags_ne_nil_iff]
    by_cases hnone : app.shownFlags (.command command.name) = [] <;>
      by_cases hdescription : command.description = "" <;> simp [details, hnone, hdescription]
  · rw [← shownFlags_ne_nil_iff]
    by_cases hnone : app.shownFlags (.command command.name) = [] <;>
      by_cases hdescription : command.description = "" <;> simp [details, hnone, hdescription]

end App

namespace Sample

/-- A global switch that no help text shows. -/
def trace : Flag :=
  { Flag.switch "trace" "Trace all calls." with hidden := true }

/-- The help has the global flag, and it stays as it is with a hidden one. -/
theorem help_lists_config :
    app.help app.readings.snapshot
        = HelpSection.layout (app.overview app.readings.snapshot)
      ∧ (∃ s ∈ app.overview app.readings.snapshot, s.heading = "GLOBAL FLAGS")
      ∧ ∃ extended, registry.registerFlag trace = .ok extended
        ∧ ({ app with registry := extended } : App).help app.readings.snapshot
          = app.help app.readings.snapshot := by
  have hreachable : app.registry.Reachable := reachable_registry
  obtain ⟨hlayout, hglobals, -, hregister, -⟩ :=
    App.help_shows_registry hreachable app.readings.snapshot
  have htexts : ∀ text ∈ app.texts app.readings.snapshot, Text.Apart text := by decide
  have hshown : ∃ f ∈ registry.flags.flags, f.scope = .everywhere ∧ f.hidden = false :=
    ⟨config, by decide, rfl, rfl⟩
  have htrace : registry.registerFlag trace
      = .ok { registry with flags := ⟨registry.flags.flags ++ [trace]⟩ } := by rfl
  exact ⟨hlayout rfl htexts, hglobals.mpr hshown, _, htrace, hregister trace _ htrace (.inl rfl)⟩

end Sample

end CommandFront
