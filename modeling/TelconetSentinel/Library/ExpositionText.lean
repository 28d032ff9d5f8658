import TelconetSentinel.Library.EscapedText
import TelconetSentinel.Library.KeyedLists

namespace TelconetSentinel.ExpositionText

open EscapedText

inductive Kind
  | counter
  | gauge
  deriving DecidableEq, Repr

def Kind.text : Kind → String
  | counter => "counter"
  | gauge => "gauge"

/-- A sample line: the labels with their values as they are meant, not as they are written. -/
structure Sample where
  name : String
  labels : List (String × String)
  value : String
  deriving DecidableEq, Repr

inductive Line
  | help (name text : String)
  | type (name : String) (kind : Kind)
  | sample (sample : Sample)
  deriving DecidableEq, Repr

def helpKeyword : List Char := ['#', ' ', 'H', 'E', 'L', 'P', ' ']

def typeKeyword : List Char := ['#', ' ', 'T', 'Y', 'P', 'E', ' ']

section Writing

variable (table : Table Char)

def labelText (label : String × String) : List Char :=
  label.1.toList ++ '=' :: '"' :: (table.escape label.2.toList ++ ['"'])

def labelsText (labels : List (String × String)) : List Char :=
  '{' :: ([','].intercalate (labels.map (labelText table)) ++ ['}'])

def Sample.text (sample : Sample) : List Char :=
  sample.name.toList ++ (if sample.labels = [] then [] else labelsText table sample.labels) ++
    ' ' :: sample.value.toList

def Line.text : Line → List Char
  | help name text => helpKeyword ++ (name.toList ++ ' ' :: text.toList)
  | type name kind => typeKeyword ++ (name.toList ++ ' ' :: kind.text.toList)
  | sample s => s.text table

def text (lines : List Line) : List Char := lines.flatMap fun line => line.text table ++ ['\n']

@[simp] theorem text_append (lines later : List Line) : text table (lines ++ later) = text table lines ++
    text table later :=
  List.flatMap_append

end Writing

section Reading

variable (table : Table Char)

def isNameChar (c : Char) : Bool := c.isAlphanum || c == '_' || c == ':'

def readKind (text : List Char) : Option Kind :=
  if text = "counter".toList then some .counter else if text = "gauge".toList then some .gauge else none

def readComment (text : List Char) : Option (String × List Char) :=
  match text.dropWhile isNameChar with
  | ' ' :: rest => some (String.ofList (text.takeWhile isNameChar), rest)
  | _ => none

def readLabels : ℕ → List Char → Option (List (String × String) × List Char)
  | 0, _ => none
  | rounds + 1, text =>
    match text.dropWhile isNameChar with
    | '=' :: '"' :: quoted =>
      match table.readQuoted '"' quoted with
      | some (value, ',' :: rest) => (readLabels rounds rest).map fun read =>
          ((String.ofList (text.takeWhile isNameChar), String.ofList value) :: read.1, read.2)
      | some (value, '}' :: rest) =>
        some ([(String.ofList (text.takeWhile isNameChar), String.ofList value)], rest)
      | _ => none
    | _ => none

/-- A value is one word; a second one would be a timestamp. -/
def readValue : List Char → Option String
  | ' ' :: value => if value ≠ [] ∧ ' ' ∉ value then some (String.ofList value) else none
  | _ => none

def readSample (text : List Char) : Option Sample :=
  let name := String.ofList (text.takeWhile isNameChar)
  match text.dropWhile isNameChar with
  | [] => none
  | c :: rest =>
    if c = '{' then (readLabels table rest.length rest).bind fun read =>
      (readValue read.2).map (⟨name, read.1, ·⟩)
    else (readValue (c :: rest)).map (⟨name, [], ·⟩)

def readLine (text : List Char) : Option Line :=
  if helpKeyword.isPrefixOf text then
    (readComment (text.drop helpKeyword.length)).map fun read => .help read.1 (String.ofList read.2)
  else if typeKeyword.isPrefixOf text then
    (readComment (text.drop typeKeyword.length)).bind fun read => (readKind read.2).map (.type read.1)
  else (readSample table text).map .sample

def read (text : List Char) : Option (List Line) :=
  if (text.splitOn '\n').getLast? = some [] then (text.splitOn '\n').dropLast.mapM (readLine table) else none

end Reading

section RoundTrip

def IsName (name : String) : Prop := name ≠ "" ∧ name.toList.all isNameChar = true

instance (name : String) : Decidable (IsName name) := inferInstanceAs (Decidable (_ ∧ _))

theorem isName_ofList {text : List Char} (h : text ≠ [] ∧ text.all isNameChar = true) :
    IsName (String.ofList text) := by
  refine ⟨fun hempty => h.1 ?_, by rw [String.toList_ofList]; exact h.2⟩
  rw [← String.toList_ofList (l := text), hempty]
  rfl

theorem not_mem_ofList {c : Char} {text : List Char} (h : c ∉ text) : c ∉ (String.ofList text).toList := by
  rwa [String.toList_ofList]

def IsValue (value : String) : Prop := value ≠ "" ∧ ' ' ∉ value.toList ∧ '\n' ∉ value.toList

instance (value : String) : Decidable (IsValue value) := inferInstanceAs (Decidable (_ ∧ _))

def Sample.Readable (sample : Sample) : Prop :=
  IsName sample.name ∧ (∀ label ∈ sample.labels, IsName label.1) ∧ IsValue sample.value

def Line.Readable : Line → Prop
  | help name text => IsName name ∧ '\n' ∉ text.toList
  | type name _ => IsName name
  | sample s => s.Readable

theorem span_name {name : String} (h : IsName name) {c : Char} (hc : isNameChar c = false)
    (rest : List Char) :
    String.ofList ((name.toList ++ c :: rest).takeWhile isNameChar) = name ∧
      (name.toList ++ c :: rest).dropWhile isNameChar = c :: rest := by
  have hname := List.all_eq_true.mp h.2
  have hstop : ¬ isNameChar c = true := Bool.eq_false_iff.mp hc
  rw [List.takeWhile_append_of_pos hname, List.dropWhile_append_of_pos hname,
    List.takeWhile_cons_of_neg hstop, List.dropWhile_cons_of_neg hstop, List.append_nil, String.ofList_toList]
  exact ⟨rfl, rfl⟩

theorem readComment_text {name : String} (h : IsName name) (rest : List Char) :
    readComment (name.toList ++ ' ' :: rest) = some (name, rest) := by
  obtain ⟨htake, hdrop⟩ := span_name h (by decide : isNameChar ' ' = false) rest
  rw [readComment, hdrop]
  simp only [htake]

theorem readKind_text (kind : Kind) : readKind kind.text.toList = some kind := by
  cases kind <;> decide

theorem readValue_text {value : String} (h : IsValue value) :
    readValue (' ' :: value.toList) = some value := by
  have hne : value.toList ≠ [] := fun hnil => h.1 (String.toList_eq_nil_iff.mp hnil)
  rw [readValue, if_pos ⟨hne, h.2.1⟩, String.ofList_toList]

variable {table : Table Char} (hcoded : table.code '"' ≠ none) (hmark : '"' ≠ table.mark)

include hcoded hmark

/-- By induction on the labels, each of which is followed by a comma or by the closing brace. -/
theorem readLabels_text {labels : List (String × String)} (hne : labels ≠ [])
    (h : ∀ label ∈ labels, IsName label.1) {rounds : ℕ} (hrounds : labels.length ≤ rounds)
    (rest : List Char) :
    readLabels table rounds ([','].intercalate (labels.map (labelText table)) ++ '}' :: rest) =
      some (labels, rest) := by
  induction labels generalizing rounds with
  | nil => exact absurd rfl hne
  | cons label labels ih =>
    obtain ⟨hname, hnames⟩ := List.forall_mem_cons.mp h
    obtain ⟨rounds, rfl⟩ : ∃ more, rounds = more + 1 := ⟨rounds - 1, by simp at hrounds; omega⟩
    have hquoted := fun rest => table.readQuoted_escape hcoded hmark label.2.toList rest
    have hspan := fun rest => span_name hname (by decide : isNameChar '=' = false) ('"' :: rest)
    cases labels with
    | nil =>
      have htext : [','].intercalate ([label].map (labelText table)) ++ '}' :: rest =
          label.1.toList ++ '=' :: '"' :: (table.escape label.2.toList ++ '"' :: '}' :: rest) := by
        simp [labelText]
      rw [htext, readLabels, (hspan _).2]
      simp only [hquoted, (hspan _).1, String.ofList_toList]
    | cons next labels =>
      have hcount : (next :: labels).length ≤ rounds := by simpa using hrounds
      have htext : [','].intercalate ((label :: next :: labels).map (labelText table)) ++ '}' :: rest =
          label.1.toList ++ '=' :: '"' :: (table.escape label.2.toList ++ '"' :: ',' ::
            ([','].intercalate ((next :: labels).map (labelText table)) ++ '}' :: rest)) := by
        simp [labelText, List.intercalate_cons_cons]
      rw [htext, readLabels, (hspan _).2]
      simp only [hquoted, (hspan _).1, ih (List.cons_ne_nil _ _) hnames hcount, Option.map_some,
        String.ofList_toList]

omit hcoded hmark in
theorem length_le_labelsText (table : Table Char) (labels : List (String × String)) :
    labels.length ≤ ([','].intercalate (labels.map (labelText table))).length := by
  induction labels with
  | nil => exact Nat.zero_le _
  | cons label labels ih =>
    cases labels with
    | nil =>
      simp [labelText]
      omega
    | cons next labels =>
      rw [List.map_cons, List.map_cons, List.intercalate_cons_cons, List.length_append, List.length_append,
        ← List.map_cons, List.length_cons]
      have hcomma : [','].length = 1 := rfl
      omega

theorem readSample_text {sample : Sample} (h : sample.Readable) :
    readSample table (sample.text table) = some sample := by
  obtain ⟨hname, hnames, hvalue⟩ := h
  unfold readSample
  by_cases hlabels : sample.labels = []
  · have htext : sample.text table = sample.name.toList ++ ' ' :: sample.value.toList := by
      simp [Sample.text, hlabels]
    obtain ⟨htake, hdrop⟩ := span_name hname (by decide : isNameChar ' ' = false) sample.value.toList
    rw [htext, htake, hdrop]
    simp only [if_neg (by decide : ¬ ' ' = '{'), readValue_text hvalue, Option.map_some, ← hlabels]
  · have htext : sample.text table = sample.name.toList ++
        '{' :: ([','].intercalate (sample.labels.map (labelText table)) ++
        '}' :: ' ' :: sample.value.toList) := by
      simp [Sample.text, hlabels, labelsText]
    obtain ⟨htake, hdrop⟩ := span_name hname (by decide : isNameChar '{' = false)
      ([','].intercalate (sample.labels.map (labelText table)) ++ '}' :: ' ' :: sample.value.toList)
    have hrounds : sample.labels.length ≤ ([','].intercalate (sample.labels.map (labelText table)) ++
        '}' :: ' ' :: sample.value.toList).length :=
      (length_le_labelsText table sample.labels).trans (by rw [List.length_append]; omega)
    rw [htext, htake, hdrop]
    simp only [if_pos, readLabels_text hcoded hmark hlabels hnames hrounds, Option.bind_some,
      readValue_text hvalue, Option.map_some]

omit hcoded hmark in
theorem not_comment {name : String} (h : IsName name) {keyword : List Char}
    (hkeyword : keyword.head? = some '#') (rest : List Char) :
    keyword.isPrefixOf (name.toList ++ rest) = false := by
  obtain ⟨c, tail, htail⟩ := List.exists_cons_of_ne_nil fun hnil => h.1 (String.toList_eq_nil_iff.mp hnil)
  obtain ⟨more, rfl⟩ := List.head?_eq_some_iff.mp hkeyword
  have hc : isNameChar c = true := List.all_eq_true.mp h.2 c (htail ▸ List.mem_cons_self)
  have hne : '#' ≠ c := by
    rintro rfl
    exact absurd hc (by decide)
  rw [htail, List.cons_append, List.isPrefixOf_cons_cons]
  simp [hne]

theorem readLine_text {line : Line} (h : line.Readable) : readLine table (line.text table) = some line := by
  unfold readLine
  cases line with
  | help name text =>
    have hprefix : helpKeyword.isPrefixOf (Line.text table (.help name text)) = true :=
      List.isPrefixOf_iff_prefix.mpr (List.prefix_append _ _)
    rw [if_pos hprefix, Line.text, List.drop_left, readComment_text h.1, Option.map_some,
      String.ofList_toList]
  | type name kind =>
    have hother : ¬ helpKeyword.isPrefixOf (Line.text table (.type name kind)) = true := by
      simp [Line.text, helpKeyword, typeKeyword]
    have hprefix : typeKeyword.isPrefixOf (Line.text table (.type name kind)) = true :=
      List.isPrefixOf_iff_prefix.mpr (List.prefix_append _ _)
    rw [if_neg hother, if_pos hprefix, Line.text, List.drop_left, readComment_text h, Option.bind_some,
      readKind_text, Option.map_some]
  | sample sample =>
    have htext : ∃ rest, Line.text table (.sample sample) = sample.name.toList ++ rest :=
      ⟨_, by rw [Line.text, Sample.text, List.append_assoc]⟩
    obtain ⟨rest, hrest⟩ := htext
    rw [hrest, not_comment h.1 rfl, not_comment h.1 rfl, ← hrest, Line.text, readSample_text hcoded hmark h]
    rfl

omit hcoded hmark in
theorem newline_not_mem_name {name : String} (h : IsName name) : '\n' ∉ name.toList := fun hmem =>
  absurd (List.all_eq_true.mp h.2 _ hmem) (by decide)

omit hcoded hmark in
theorem not_mem_intercalate {c : Char} {separator : List Char} {parts : List (List Char)}
    (hseparator : c ∉ separator) (h : ∀ part ∈ parts, c ∉ part) : c ∉ separator.intercalate parts := by
  induction parts with
  | nil => simp
  | cons part parts ih =>
    obtain ⟨hpart, hparts⟩ := List.forall_mem_cons.mp h
    cases parts with
    | nil => simpa using hpart
    | cons next parts =>
      rw [List.intercalate_cons_cons, List.mem_append, List.mem_append]
      rintro ((hmem | hmem) | hmem)
      · exact hpart hmem
      · exact hseparator hmem
      · exact ih hparts hmem

variable (hline : ∀ text, '\n' ∉ table.escape text)

include hline

omit hcoded hmark in
theorem newline_not_mem_labels {labels : List (String × String)} (h : ∀ label ∈ labels, IsName label.1) :
    '\n' ∉ labelsText table labels := by
  have hlabel : ∀ part ∈ labels.map (labelText table), '\n' ∉ part := by
    intro part hpart
    obtain ⟨label, hmem, rfl⟩ := List.mem_map.mp hpart
    have hname := newline_not_mem_name (h label hmem)
    simp [labelText, hname, hline]
  have hjoined := not_mem_intercalate (by decide : '\n' ∉ [',']) hlabel
  simp [labelsText, hjoined]

omit hcoded hmark in
theorem newline_not_mem_text {line : Line} (h : line.Readable) : '\n' ∉ line.text table := by
  cases line with
  | help name text =>
    have hname := newline_not_mem_name h.1
    have htext := h.2
    simp [Line.text, helpKeyword, hname, htext]
  | type name kind =>
    have hname := newline_not_mem_name h
    have hkind : '\n' ∉ kind.text.toList := by cases kind <;> decide
    simp [Line.text, typeKeyword, hname, hkind]
  | sample sample =>
    have hname := newline_not_mem_name h.1
    have hlabels := newline_not_mem_labels hline h.2.1
    have hvalue := h.2.2.2.2
    by_cases hnil : sample.labels = [] <;> simp [Line.text, Sample.text, hname, hlabels, hvalue, hnil]

omit hcoded hmark hline in
theorem splitOn_text {lines : List Line} (h : ∀ line ∈ lines, '\n' ∉ line.text table) :
    (text table lines).splitOn '\n' = lines.map (Line.text table) ++ [[]] := by
  induction lines with
  | nil => rfl
  | cons line lines ih =>
    obtain ⟨hhead, htail⟩ := List.forall_mem_cons.mp h
    have hsplit : text table (line :: lines) = line.text table ++ '\n' :: text table lines := by
      simp [text]
    rw [hsplit, List.splitOn_append_cons_self_of_not_mem hhead, ih htail]
    rfl

theorem read_text {lines : List Line} (h : ∀ line ∈ lines, line.Readable) :
    read table (text table lines) = some lines := by
  have hsplit := splitOn_text fun line hmem => newline_not_mem_text hline (h line hmem)
  have hlines : (lines.map (Line.text table)).mapM (readLine table) = some lines := by
    induction lines with
    | nil => rfl
    | cons line lines ih =>
      obtain ⟨hhead, htail⟩ := List.forall_mem_cons.mp h
      rw [List.map_cons, List.mapM_cons, readLine_text hcoded hmark hhead,
        ih htail (splitOn_text fun line hmem => newline_not_mem_text hline (htail line hmem))]
      rfl
  rw [read, hsplit, List.getLast?_concat, if_pos rfl, List.dropLast_concat, hlines]

end RoundTrip

def Sample.series (sample : Sample) : String × Finset (String × String) :=
  (sample.name, sample.labels.toFinset)

theorem Sample.series_nodup {samples : List Sample} {names : String → List String}
    (hlabels : ∀ sample ∈ samples, sample.labels.map Prod.fst = names sample.name)
    (hnames : ∀ name, (names name).Nodup)
    (hunique : (samples.map fun sample => (sample.name, sample.labels)).Nodup) :
    (samples.map Sample.series).Nodup := by
  refine List.pairwise_map.mpr ((List.pairwise_map.mp hunique).imp_of_mem fun {x y} hx hy hne heq => hne ?_)
  have hname : x.name = y.name := congrArg Prod.fst heq
  have hsets : x.labels.toFinset = y.labels.toFinset := congrArg Prod.snd heq
  have hkeys : x.labels.map Prod.fst = y.labels.map Prod.fst := by
    rw [hlabels x hx, hlabels y hy, hname]
  have hsame := KeyedLists.eq_of_keys_eq ((hlabels x hx).symm ▸ hnames x.name) hkeys fun label hlabel =>
    List.mem_toFinset.mp (hsets ▸ List.mem_toFinset.mpr hlabel)
  exact Prod.ext hname hsame

namespace Line

def helped : Line → Option String
  | help name _ => some name
  | _ => none

def typed : Line → Option String
  | type name _ => some name
  | _ => none

def sampled : Line → Option Sample
  | sample s => some s
  | _ => none

end Line

/-- What the format asks of the lines together: one declaration of a metric, before its samples, and no series
twice. -/
structure WellFormed (lines : List Line) : Prop where
  helped_once : (lines.filterMap Line.helped).Nodup
  typed_once : (lines.filterMap Line.typed).Nodup
  declared : ∀ earlier sample later, lines = earlier ++ .sample sample :: later →
    sample.name ∈ earlier.filterMap Line.helped ∧ sample.name ∈ earlier.filterMap Line.typed
  labelled : ∀ sample ∈ lines.filterMap Line.sampled, (sample.labels.map Prod.fst).Nodup
  unique : ((lines.filterMap Line.sampled).map Sample.series).Nodup

namespace WellFormed

variable {lines later : List Line}

theorem typed_of_sampled (h : WellFormed lines) {sample : Sample}
    (hsample : sample ∈ lines.filterMap Line.sampled) :
    sample.name ∈ lines.filterMap Line.typed := by
  obtain ⟨line, hline, hsampled⟩ := List.mem_filterMap.mp hsample
  cases line with
  | sample s =>
    obtain rfl := Option.some.inj hsampled
    obtain ⟨earlier, after, rfl⟩ := List.append_of_mem hline
    rw [List.filterMap_append]
    exact List.mem_append_left _ (h.declared earlier s after rfl).2
  | _ => cases hsampled

theorem nil : WellFormed [] := by
  refine ⟨List.nodup_nil, List.nodup_nil, fun earlier sample later h => ?_, by simp, List.nodup_nil⟩
  simp at h

theorem append (h : WellFormed lines) (h' : WellFormed later)
    (hhelped : ∀ name ∈ lines.filterMap Line.helped, name ∉ later.filterMap Line.helped)
    (htyped : ∀ name ∈ lines.filterMap Line.typed, name ∉ later.filterMap Line.typed) :
    WellFormed (lines ++ later) := by
  refine ⟨?_, ?_, fun earlier sample after hsplit => ?_, fun sample hsample => ?_, ?_⟩
  · rw [List.filterMap_append]
    exact List.nodup_append'.mpr ⟨h.helped_once, h'.helped_once, hhelped⟩
  · rw [List.filterMap_append]
    exact List.nodup_append'.mpr ⟨h.typed_once, h'.typed_once, htyped⟩
  · obtain ⟨more, rfl, hlater⟩ | ⟨more, hlines, hafter⟩ := List.append_eq_append_iff.mp hsplit
    · obtain ⟨hhelp, htype⟩ := h'.declared more sample after hlater
      rw [List.filterMap_append, List.filterMap_append]
      exact ⟨List.mem_append_right _ hhelp, List.mem_append_right _ htype⟩
    · cases more with
      | nil =>
        have hhead : later = [] ++ .sample sample :: after := hafter.symm
        obtain ⟨hhelp, -⟩ := h'.declared [] sample after hhead
        exact absurd hhelp List.not_mem_nil
      | cons line more =>
        obtain ⟨rfl, -⟩ := List.cons.inj hafter
        exact h.declared earlier sample more hlines
  · rw [List.filterMap_append] at hsample
    exact (List.mem_append.mp hsample).elim (h.labelled sample) (h'.labelled sample)
  · rw [List.filterMap_append, List.map_append]
    refine List.nodup_append'.mpr ⟨h.unique, h'.unique, fun series hseries hseries' => ?_⟩
    obtain ⟨sample, hsample, rfl⟩ := List.mem_map.mp hseries
    obtain ⟨other, hother, heq⟩ := List.mem_map.mp hseries'
    have hname : other.name = sample.name := congrArg Prod.fst heq
    exact htyped sample.name (h.typed_of_sampled hsample) (hname ▸ h'.typed_of_sampled hother)

end WellFormed

section Blocks

structure Family where
  name : String
  help : String
  kind : Kind := .gauge

def Family.lines (family : Family) : List Line :=
  [.help family.name family.help, .type family.name family.kind]

structure Block where
  families : List Family
  samples : List Sample

namespace Block

def names (block : Block) : List String := block.families.map Family.name

def lines (block : Block) : List Line := block.families.flatMap Family.lines ++ block.samples.map .sample

structure Sound (block : Block) : Prop where
  declared : ∀ sample ∈ block.samples, sample.name ∈ block.names
  labelled : ∀ sample ∈ block.samples, (sample.labels.map Prod.fst).Nodup
  unique : (block.samples.map Sample.series).Nodup

variable {block : Block}

theorem filterMap_families (families : List Family) :
    (families.flatMap Family.lines).filterMap Line.helped = families.map Family.name ∧
      (families.flatMap Family.lines).filterMap Line.typed = families.map Family.name ∧
      (families.flatMap Family.lines).filterMap Line.sampled = [] := by
  induction families with
  | nil => exact ⟨rfl, rfl, rfl⟩
  | cons family families ih =>
    obtain ⟨hhelped, htyped, hsampled⟩ := ih
    simp only [List.flatMap_cons, List.filterMap_append, hhelped, htyped, hsampled]
    exact ⟨rfl, rfl, rfl⟩

theorem filterMap_samples (samples : List Sample) : (samples.map Line.sample).filterMap Line.helped = [] ∧
    (samples.map Line.sample).filterMap Line.typed = [] ∧ (samples.map Line.sample).filterMap Line.sampled =
      samples := by
  simp [List.filterMap_map, Function.comp_def, Line.helped, Line.typed, Line.sampled]

theorem helped_lines (block : Block) : block.lines.filterMap Line.helped = block.names := by
  rw [lines, List.filterMap_append, (filterMap_families _).1, (filterMap_samples _).1, List.append_nil, names]

theorem typed_lines (block : Block) : block.lines.filterMap Line.typed = block.names := by
  rw [lines, List.filterMap_append, (filterMap_families _).2.1, (filterMap_samples _).2.1, List.append_nil,
    names]

theorem sampled_lines (block : Block) : block.lines.filterMap Line.sampled = block.samples := by
  rw [lines, List.filterMap_append, (filterMap_families _).2.2, (filterMap_samples _).2.2, List.nil_append]

theorem Sound.wellFormed (h : block.Sound) (hnames : block.names.Nodup) : WellFormed block.lines := by
  refine ⟨helped_lines block ▸ hnames, typed_lines block ▸ hnames, fun earlier sample later hsplit => ?_, ?_,
    ?_⟩
  · obtain ⟨more, rfl, hsamples⟩ | ⟨more, hfamilies, hlater⟩ := List.append_eq_append_iff.mp hsplit
    · have hmem : Line.sample sample ∈ block.samples.map Line.sample :=
        hsamples ▸ List.mem_append_right _ List.mem_cons_self
      obtain ⟨s, hs, hsame⟩ := List.mem_map.mp hmem
      obtain rfl := Line.sample.inj hsame
      rw [List.filterMap_append, List.filterMap_append, (filterMap_families _).1, (filterMap_families _).2.1]
      exact ⟨List.mem_append_left _ (h.declared s hs), List.mem_append_left _ (h.declared s hs)⟩
    · cases more with
      | nil =>
        have hall : block.families.flatMap Family.lines = earlier := by simpa using hfamilies
        have hsamples : block.samples.map Line.sample = .sample sample :: later := hlater.symm
        have hmem : Line.sample sample ∈ block.samples.map Line.sample := hsamples ▸ List.mem_cons_self
        obtain ⟨s, hs, hsame⟩ := List.mem_map.mp hmem
        obtain rfl := Line.sample.inj hsame
        rw [← hall, (filterMap_families _).1, (filterMap_families _).2.1]
        exact ⟨h.declared s hs, h.declared s hs⟩
      | cons line more =>
        obtain ⟨rfl, -⟩ := List.cons.inj hlater
        have hmem : sample ∈ (block.families.flatMap Family.lines).filterMap Line.sampled :=
          List.mem_filterMap.mpr ⟨_, hfamilies ▸ List.mem_append_right _ List.mem_cons_self, rfl⟩
        rw [(filterMap_families _).2.2] at hmem
        exact absurd hmem List.not_mem_nil
  · rw [sampled_lines]
    exact h.labelled
  · rw [sampled_lines]
    exact h.unique

section Single

variable {α : Type*}

def single (name help : String) (items : List α) (labels : α → List (String × String)) (value : α → String) :
    Block :=
  ⟨[⟨name, help, .gauge⟩], items.map fun item => ⟨name, labels item, value item⟩⟩

theorem nodup_series {name : String} {items : List α} {labels : α → List (String × String)}
    {value : α → String} {names : List String} (hnames : names.Nodup)
    (hlabels : ∀ item ∈ items, (labels item).map Prod.fst = names) (hunique : (items.map labels).Nodup) :
    ((items.map fun item => (⟨name, labels item, value item⟩ : Sample)).map Sample.series).Nodup := by
  have hkeyed : ∀ sample ∈ items.map fun item => (⟨name, labels item, value item⟩ : Sample),
      sample.labels.map Prod.fst = (fun _ => names) sample.name := by simpa using hlabels
  refine Sample.series_nodup hkeyed (fun _ => hnames) ?_
  rw [List.map_map]
  exact List.pairwise_map.mpr ((List.pairwise_map.mp hunique).imp fun hne heq => hne (congrArg Prod.snd heq))

theorem nodup_of_key {β γ : Type*} {items : List α} {f : α → β} {key : α → γ} (h : (items.map key).Nodup)
    (hkey : ∀ x y, f x = f y → key x = key y) : (items.map f).Nodup :=
  List.pairwise_map.mpr ((List.pairwise_map.mp h).imp fun hne heq => hne (hkey _ _ heq))

theorem single_sound {name help : String} {items : List α} {labels : α → List (String × String)}
    {value : α → String} {names : List String} (hnames : names.Nodup)
    (hlabels : ∀ item ∈ items, (labels item).map Prod.fst = names) (hunique : (items.map labels).Nodup) :
    (single name help items labels value).Sound := by
  refine ⟨fun sample hsample => ?_, fun sample hsample => ?_, nodup_series hnames hlabels hunique⟩
  · obtain ⟨item, -, rfl⟩ := List.mem_map.mp hsample
    exact List.mem_cons_self
  · obtain ⟨item, hitem, rfl⟩ := List.mem_map.mp hsample
    exact (hlabels item hitem).symm ▸ hnames

end Single

end Block

theorem wellFormed_blocks {blocks : List Block} (h : ∀ block ∈ blocks, block.Sound)
    (hnames : (blocks.flatMap Block.names).Nodup) : WellFormed (blocks.flatMap Block.lines) := by
  induction blocks with
  | nil => exact .nil
  | cons block blocks ih =>
    obtain ⟨hblock, hblocks⟩ := List.forall_mem_cons.mp h
    rw [List.flatMap_cons] at hnames ⊢
    obtain ⟨hfirst, hrest, hdisjoint⟩ := List.nodup_append'.mp hnames
    have hhelped : (blocks.flatMap Block.lines).filterMap Line.helped = blocks.flatMap Block.names := by
      simp only [List.filterMap_flatMap, Block.helped_lines]
    have htyped : (blocks.flatMap Block.lines).filterMap Line.typed = blocks.flatMap Block.names := by
      simp only [List.filterMap_flatMap, Block.typed_lines]
    refine (hblock.wellFormed hfirst).append (ih hblocks hrest) ?_ ?_
    · rw [Block.helped_lines, hhelped]
      exact hdisjoint
    · rw [Block.typed_lines, htyped]
      exact hdisjoint

end Blocks

end TelconetSentinel.ExpositionText
