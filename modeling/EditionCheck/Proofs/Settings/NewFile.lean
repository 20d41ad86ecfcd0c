import EditionCheck.Proofs.File.Extension
import EditionCheck.Proofs.Settings.Acceptance
import EditionCheck.Proofs.Toml.Plain

/-!
  What a new configuration file changes.

  A layer is neutral if it sets fields to nothing but their standard values; below others it makes no
  difference (`settle_above_neutral`). A new file holds a neutral layer (`newLayer_neutral`), which
  its lines say one by one (`newLines_say`). So where there was no configuration file, settings
  that could be loaded are the same with a new one (`load_of_gains`).
-/

namespace EditionCheck.Settings

open File (Disk)
open Toml (Plain Says)

variable {w : Surroundings} {a : Arguments} {mark : String} {s : Settings} {p : Path}
  {after : List Path} {l : Layer} {d d' : Disk}

/-! ## Layers that make no difference -/

/-- Whatever the layer sets is the standard. -/
def Layer.Neutral (l : Layer) : Prop :=
  ∀ {α : Type} (f : Field α) (x : α), f.inLayer l = some x → f.inSettings standard = some x

theorem Layer.above_assoc (top middle lowest : Layer) :
    top.above (middle.above lowest) = (top.above middle).above lowest := by
  simp [Layer.above, Option.or_assoc]

theorem settle_above (h : l.Neutral) (upper : Layer) : (upper.above l).settle = upper.settle := by
  refine Field.inSettings_ext fun f => ?_
  rw [Field.inSettings_settle, Field.inSettings_settle, Field.inLayer_above]
  cases f.inLayer upper with
  | some x => rfl
  | none =>
    cases hx : f.inLayer l with
    | none => rfl
    | some x => exact (h f x hx).symm

/-- At the bottom a neutral layer is as good as none. -/
theorem settle_above_neutral (h : l.Neutral) (top middle : Layer) :
    (top.above (middle.above l)).settle = (top.above (middle.above .empty)).settle := by
  rw [Layer.above_assoc, settle_above h, Layer.above_empty]

/-! ## The layer of a new file -/

/-- The standard settings, as far as a new file has them. -/
def newLayer : Layer :=
  { standard.asLayer with projectPath := none, outputFile := none, quiet := none, verbose := none }

theorem newLayer_neutral : newLayer.Neutral := by
  intro α f x hx
  cases f <;> first | exact hx | cases hx

theorem newLayer_check (file : Path) : newLayer.check file = .ok () := by
  refine Layer.check_eq_ok.2 ⟨nofun, ?_, ?_, nofun⟩
  · rintro ps ⟨rfl⟩
    exact nofun
  · rintro m ⟨rfl⟩
    decide +kernel

/-- What a new file says. -/
def newPairs : List (String × Plain) :=
  [("target", .text "es5"), ("log_conforming_packages", .truth false),
    ("include_dev_deps", .truth false), ("include_optional_deps", .truth false),
    ("ignore_patterns", .nothing), ("modules_dir", .text "node_modules"),
    ("output_format", .text "text"), ("use_colors", .truth true), ("show_progress", .truth true),
    ("fail_on_nonconforming", .truth true)]

theorem newLines_say : Says ConfigFile.newLines newPairs := by
  dsimp only [ConfigFile.newLines, newPairs]
  repeat
    first
    | exact .done
    | refine .blank ?_
    | refine .pair (by decide) (by decide) (by decide) ?_
    | refine .comment rfl (by decide) ?_

theorem toList_newText : ConfigFile.newText.toList = Toml.written ConfigFile.newLines := by
  simp [ConfigFile.newText, Toml.written, String.toList_join, List.flatMap_map]

/-- The text of a new file is that of its layer. -/
theorem ofTomlText?_newText : Layer.ofTomlText? ConfigFile.newText = some newLayer := by
  rw [Layer.ofTomlText?, Toml.read?_of_says newLines_say toList_newText]
  decide +kernel

theorem holds_of_gains (h : d.Gains d' ConfigFile.fileName ConfigFile.newText) :
    Holds d' ConfigFile.fileName newLayer where
  file := h.file
  text := ⟨_, h.read, ofTomlText?_newText⟩
  sound := newLayer_check _

/-! ## Loading -/

theorem fileLayer_of_first (hat : w.locations = p :: after)
    (h : Holds w.disk p l) : fileLayer w none = .ok l := by
  have hfind : w.locations.find? w.disk.isFile = some p := by
    rw [hat, List.find?_cons_of_pos h.file]
  rw [fileLayer_none, hfind, Option.elim_some, (read_eq_ok h.file).2 h]
  rfl

theorem fileLayer_of_nowhere
    (h : ∀ q ∈ w.locations, w.disk.isFile q = false) :
    fileLayer w none = .ok .empty := by
  have hfind : w.locations.find? w.disk.isFile = none :=
    List.find?_eq_none.2 fun q hq => by simp [h q hq]
  rw [fileLayer_none, hfind, Option.elim_none]

/-- Settings that can be used are loaded from the three layers. -/
theorem load_of_layers {lowest top : Layer} (hlowest : fileLayer w a.config = .ok lowest)
    (htop : a.layer = .ok top)
    (hs : (top.above (((Source.environment mark).loadOrNothing w).above lowest)).settle = s)
    (hcheck : s.check w.disk = .ok ()) : load w a mark = .ok s := by
  subst hs
  have hcombined : combined w a mark =
      .ok (top.above (((Source.environment mark).loadOrNothing w).above lowest)) :=
    bind_eq_ok.2 ⟨lowest, hlowest, bind_eq_ok.2 ⟨top, htop, rfl⟩⟩
  exact bind_eq_ok.2 ⟨_, hcombined, bind_eq_ok.2 ⟨(), hcheck, rfl⟩⟩

/-- Settings that can be used on a disk can be used with more on it. -/
theorem check_of_extends (h : d.Extends d') (hs : s.check d = .ok ()) : s.check d' = .ok () := by
  obtain ⟨husable, hout⟩ := check_eq_ok.1 hs
  refine check_eq_ok.2 ⟨⟨h.isDirectory husable.project, husable.patterns,
    husable.modules⟩, fun out ho => ?_⟩
  obtain ⟨i, hi, hwritable⟩ := hout out ho
  exact ⟨i, h.leads hi, hwritable⟩

/-- Where there was no configuration file, a new one leaves settings that could be loaded as they
were. -/
theorem load_of_gains (h : w.disk.Gains d' ConfigFile.fileName ConfigFile.newText)
    (hconfig : a.config = none)
    (hnowhere : ∀ q ∈ w.locations, w.disk.isFile q = false)
    (hload : load w a mark = .ok s) : load { w with disk := d' } a mark = .ok s := by
  obtain ⟨lowest, top, hlowest, htop, hs⟩ := load_eq_ok_layers hload
  have hempty : lowest = .empty := by
    rw [hconfig, fileLayer_of_nowhere hnowhere] at hlowest
    exact (Except.ok.inj hlowest).symm
  have hnew : fileLayer { w with disk := d' } a.config = .ok newLayer := by
    rw [hconfig]
    exact fileLayer_of_first rfl (holds_of_gains h)
  refine load_of_layers hnew htop ?_ (check_of_extends h.extends (check_of_load hload))
  rw [hs, hempty]
  exact settle_above_neutral newLayer_neutral top _

end EditionCheck.Settings
