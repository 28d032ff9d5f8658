import TelconetSentinel.LabelEscaping
import TelconetSentinel.Library.ExpositionText
import TelconetSentinel.Library.GeneralFormat

namespace TelconetSentinel

open DocumentValues EscapedText ExpositionText GeneralFormat
open TelemetryMetrics (labelTable escapeLabel escapeLabel_toList newline_not_mem_escapeLabel flag)

def joinLines (lines : List String) : String := String.intercalate "\n" lines ++ "\n"

def readMetrics (body : String) : Option (List Line) := read labelTable body.toList

def Writes (written : String) (line : Line) : Prop := written.toList = line.text labelTable ∧ line.Readable

structure Renders (body : String) (lines : List Line) : Prop where
  toList_eq : body.toList = text labelTable lines
  readable : ∀ line ∈ lines, line.Readable

namespace Renders

variable {body later : String} {lines lines' : List Line}

theorem append (h : Renders body lines) (h' : Renders later lines') : Renders (body ++ later)
    (lines ++ lines') := by
  refine ⟨?_, List.forall_mem_append.mpr ⟨h.readable, h'.readable⟩⟩
  rw [String.toList_append, h.toList_eq, h'.toList_eq, text_append]

theorem read (h : Renders body lines) : readMetrics body = some lines := by
  rw [readMetrics, h.toList_eq]
  refine read_text ?_ (by decide) (fun text => ?_) h.readable
  · decide
  · have hescape := newline_not_mem_escapeLabel (String.ofList text)
    rwa [escapeLabel_toList, String.toList_ofList] at hescape

end Renders

/-- A text without backslashes, quotes and line feeds is written as it is. -/
def Plain (text : String) : Prop := ∀ c ∈ text.toList, labelTable.code c = none

instance (text : String) : Decidable (Plain text) :=
  List.decidableBAll (fun c => labelTable.code c = none) text.toList

theorem Plain.escape {text : String} (h : Plain text) : labelTable.escape text.toList = text.toList :=
  Table.escape_eq_self h

theorem plain_of_forall {text : String} (allowed : Char → Bool) (h : ∀ c ∈ text.toList, allowed c = true)
    (hback : allowed '\\' = false) (hline : allowed '\n' = false) (hquote : allowed '"' = false) :
    Plain text := by
  intro c hc
  have hallowed := h c hc
  have hne : c ≠ '\\' ∧ c ≠ '\n' ∧ c ≠ '"' := by
    refine ⟨?_, ?_, ?_⟩ <;> rintro rfl
    · exact Bool.false_ne_true (hback.symm.trans hallowed)
    · exact Bool.false_ne_true (hline.symm.trans hallowed)
    · exact Bool.false_ne_true (hquote.symm.trans hallowed)
  simp [labelTable, hne]

section Lines

def familyHeader (name help : String) (kind : String := "gauge") : List String :=
  [s!"# HELP {name} {help}", s!"# TYPE {name} {kind}"]

def sampleLine (name : String) (labels : List (String × String)) (value : String) : String :=
  if labels = [] then s!"{name} {value}"
  else
    let pairs := String.intercalate "," (labels.map fun label => s!"{label.1}=\"{label.2}\"")
    s!"{name}\x7b{pairs}\x7d {value}"

theorem writes_familyHeader {name help : String} {kind : Kind} (hname : IsName name)
    (hhelp : '\n' ∉ help.toList) :
    List.Forall₂ Writes (familyHeader name help kind.text) (Family.lines ⟨name, help, kind⟩) := by
  refine .cons ⟨?_, hname, hhelp⟩ (.cons ⟨?_, hname⟩ .nil)
  · simp only [toString, String.toList_append, List.append_assoc]
    rfl
  · simp only [toString, String.toList_append, List.append_assoc]
    rfl

def WritesLabel (written label : String × String) : Prop :=
  written.1 = label.1 ∧ written.2.toList = labelTable.escape label.2.toList

theorem writesLabel_escapeLabel (name value : String) : WritesLabel (name, escapeLabel value) (name, value) :=
  ⟨rfl, escapeLabel_toList value⟩

theorem writesLabel_plain (name : String) {value : String} (h : Plain value) : WritesLabel (name, value)
    (name, value) :=
  ⟨rfl, h.escape.symm⟩

theorem writes_sampleLine {name value : String} {written labels : List (String × String)}
    (h : List.Forall₂ WritesLabel written labels) (hreadable : Sample.Readable ⟨name, labels, value⟩) :
    Writes (sampleLine name written value) (.sample ⟨name, labels, value⟩) := by
  refine ⟨?_, hreadable⟩
  have hnil : written = [] ↔ labels = [] := by
    rw [← List.length_eq_zero_iff, h.length_eq, List.length_eq_zero_iff]
  have hpairs : (String.intercalate "," (written.map fun label => s!"{label.1}=\"{label.2}\"")).toList =
      [','].intercalate (labels.map (labelText labelTable)) := by
    have hparts : (written.map fun label => s!"{label.1}=\"{label.2}\"").map String.toList =
        labels.map (labelText labelTable) := by
      rw [List.map_map]
      refine FallibleLists.map_eq_map h fun raw label hlabel => ?_
      simp only [Function.comp_apply, toString, String.toList_append, List.append_assoc, hlabel.2, hlabel.1]
      rfl
    rw [String.toList_intercalate, hparts]
    rfl
  unfold sampleLine Line.text Sample.text
  by_cases hlabels : labels = []
  · simp only [if_pos (hnil.mpr hlabels), if_pos hlabels, toString, String.toList_append, List.append_assoc]
    rfl
  · simp only [toString] at hpairs
    simp only [if_neg (mt hnil.mp hlabels), if_neg hlabels, toString, String.toList_append, List.append_assoc,
      hpairs, labelsText]
    simp

end Lines

theorem joinLines_toList (written : List String) (hne : written ≠ []) :
    (joinLines written).toList = written.flatMap fun line => line.toList ++ ['\n'] := by
  rw [joinLines, String.toList_append, String.toList_intercalate]
  induction written with
  | nil => exact absurd rfl hne
  | cons line written ih =>
    cases written with
    | nil => simp
    | cons next written =>
      have hrest := ih (List.cons_ne_nil _ _)
      rw [List.map_cons] at hrest
      rw [List.map_cons, List.map_cons, List.intercalate_cons_cons, List.flatMap_cons, ← hrest]
      simp

theorem renders_joinLines {written : List String} {lines : List Line} (hne : written ≠ [])
    (h : List.Forall₂ Writes written lines) : Renders (joinLines written) lines := by
  refine ⟨?_, fun line hline => ?_⟩
  · rw [joinLines_toList written hne, text]
    clear hne
    induction h with
    | nil => rfl
    | cons hwrites _ ih => rw [List.flatMap_cons, List.flatMap_cons, hwrites.1, ih]
  · obtain ⟨_, -, hwrites⟩ := FallibleLists.exists_left h hline
    exact hwrites.2

theorem intercalate_empty (written : List String) (hne : written ≠ []) :
    String.intercalate "\n" (written ++ [""]) = joinLines written := by
  induction written with
  | nil => exact absurd rfl hne
  | cons line written ih =>
    cases written with
    | nil => simp [joinLines]
    | cons next written =>
      have hrest := ih (List.cons_ne_nil _ _)
      rw [List.cons_append] at hrest
      rw [List.cons_append, List.cons_append, String.intercalate_cons_cons, hrest, joinLines, joinLines,
        String.intercalate_cons_cons]
      simp only [String.append_assoc]

theorem isValue_flag (b : Bool) : IsValue (flag b) := by
  cases b <;> decide

def writtenSample (sample : Sample) : String := sampleLine sample.name sample.labels sample.value

def writtenBlock (block : Block) : List String :=
  block.families.flatMap (fun family => familyHeader family.name family.help family.kind.text) ++
    block.samples.map writtenSample

def renderBlocks (blocks : List Block) : String := joinLines (blocks.flatMap writtenBlock)

structure WritesSample (written meant : Sample) : Prop where
  name : written.name = meant.name
  value : written.value = meant.value
  labels : List.Forall₂ WritesLabel written.labels meant.labels
  readable : meant.Readable

structure WritesBlock (written meant : Block) : Prop where
  families : written.families = meant.families
  readable : ∀ family ∈ meant.families, IsName family.name ∧ '\n' ∉ family.help.toList
  samples : List.Forall₂ WritesSample written.samples meant.samples

theorem WritesSample.writes {written meant : Sample} (h : WritesSample written meant) :
    Writes (writtenSample written) (.sample meant) := by
  rw [writtenSample, h.name, h.value]
  exact writes_sampleLine h.labels h.readable

theorem writes_plain {block : Block}
    (hfamilies : ∀ family ∈ block.families, IsName family.name ∧ '\n' ∉ family.help.toList)
    (hsamples : ∀ sample ∈ block.samples, sample.Readable ∧ ∀ label ∈ sample.labels, Plain label.2) :
    WritesBlock block block := by
  refine ⟨rfl, hfamilies, List.forall₂_same.mpr fun sample hsample => ?_⟩
  obtain ⟨hreadable, hplain⟩ := hsamples sample hsample
  exact ⟨rfl, rfl, List.forall₂_same.mpr fun label hlabel => writesLabel_plain _ (hplain label hlabel),
    hreadable⟩

theorem WritesBlock.writes {written meant : Block} (h : WritesBlock written meant) :
    List.Forall₂ Writes (writtenBlock written) meant.lines := by
  have hfamilies : List.Forall₂ Writes
      (meant.families.flatMap fun family => familyHeader family.name family.help family.kind.text)
      (meant.families.flatMap Family.lines) := by
    have hreadable := h.readable
    generalize meant.families = families at hreadable
    induction families with
    | nil => exact .nil
    | cons family families ih =>
      obtain ⟨hfamily, hrest⟩ := List.forall_mem_cons.mp hreadable
      exact List.rel_append (writes_familyHeader hfamily.1 hfamily.2) (ih hrest)
  rw [writtenBlock, Block.lines, h.families]
  refine List.rel_append hfamilies ?_
  rw [List.forall₂_map_left_iff, List.forall₂_map_right_iff]
  exact h.samples.imp fun _ _ hsample => hsample.writes

theorem renders_blocks {written meant : List Block} (hne : written.flatMap writtenBlock ≠ [])
    (h : List.Forall₂ WritesBlock written meant) : Renders (renderBlocks written)
    (meant.flatMap Block.lines) := by
  refine renders_joinLines hne ?_
  clear hne
  induction h with
  | nil => exact .nil
  | cons hblock _ ih => exact List.rel_append hblock.writes ih

theorem writes_single {α : Type*} {name help : String} {items : List α}
    {written labels : α → List (String × String)} {value : α → String} (names : List String)
    (hname : IsName name) (hhelp : '\n' ∉ help.toList) (hnames : ∀ label ∈ names, IsName label)
    (hkeys : ∀ item ∈ items, (labels item).map Prod.fst = names)
    (hlabels : ∀ item ∈ items, List.Forall₂ WritesLabel (written item) (labels item))
    (hvalue : ∀ item ∈ items, IsValue (value item)) :
    WritesBlock (.single name help items written value) (.single name help items labels value) := by
  refine ⟨rfl, List.forall_mem_singleton.mpr ⟨hname, hhelp⟩, ?_⟩
  simp only [Block.single, List.forall₂_map_left_iff, List.forall₂_map_right_iff, List.forall₂_same]
  refine fun item hitem => ⟨rfl, rfl, hlabels item hitem, hname, fun label hlabel => hnames _ ?_,
    hvalue item hitem⟩
  rw [← hkeys item hitem]
  exact List.mem_map_of_mem hlabel

section Values

theorem plain_of_number {text : String} (h : ∀ c ∈ text.toList, isNumberChar c = true) : Plain text :=
  plain_of_forall isNumberChar h (by decide) (by decide) (by decide)

theorem isValue_of_number {value : String} (hne : value ≠ "")
    (h : ∀ c ∈ value.toList, isNumberChar c = true) :
    IsValue value :=
  ⟨hne, fun hmem => absurd (h _ hmem) (by decide), fun hmem => absurd (h _ hmem) (by decide)⟩

theorem number_natural (n : ℕ) : toString n ≠ "" ∧ ∀ c ∈ (toString n).toList, isNumberChar c = true := by
  have hchars : (toString n).toList = Nat.toDigits 10 n := Nat.toList_repr
  refine ⟨fun hempty => ?_, fun c hc => ?_⟩
  · rw [hempty] at hchars
    exact Nat.toDigits_ne_nil hchars.symm
  · rw [hchars] at hc
    exact isNumberChar_toDigits n c hc

theorem number_integer (n : ℤ) : toString n ≠ "" ∧ ∀ c ∈ (toString n).toList, isNumberChar c = true := by
  cases n with
  | ofNat n => exact number_natural n
  | negSucc n =>
    have htext : toString (Int.negSucc n) = "-" ++ toString (n + 1) := rfl
    have hnatural : (toString (n + 1)).toList = Nat.toDigits 10 (n + 1) := Nat.toList_repr
    have hchars : (toString (Int.negSucc n)).toList = '-' :: Nat.toDigits 10 (n + 1) := by
      rw [htext, String.toList_append, hnatural]
      rfl
    refine ⟨fun hempty => ?_, ?_⟩
    · rw [hempty] at hchars
      cases hchars
    · rw [hchars]
      exact List.forall_mem_cons.mpr ⟨rfl, isNumberChar_toDigits (n + 1)⟩

theorem isValue_natural (n : ℕ) : IsValue (toString n) :=
  isValue_of_number (number_natural n).1 (number_natural n).2

theorem isValue_integer (n : ℤ) : IsValue (toString n) :=
  isValue_of_number (number_integer n).1 (number_integer n).2

theorem isValue_general (x : Float64) : IsValue (general x) :=
  isValue_of_number (general_ne_empty x) (isNumberChar_general x)

end Values

end TelconetSentinel
