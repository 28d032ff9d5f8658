import TelconetSentinel.Library.EscapedText
import TelconetSentinel.TelemetryMetrics

namespace TelconetSentinel

open EscapedText

/-- `_escape_prometheus_label` of `resilience.py`. -/
def Resilience.escapePrometheusLabel (value : String) : String :=
  String.ofList (TelemetryMetrics.replaceChar '"' ['\\', '"']
    (TelemetryMetrics.replaceChar '\n' ['\\', 'n']
      (TelemetryMetrics.replaceChar '\\' ['\\', '\\'] value.toList)))

/-- `_escape_prometheus_label` of `failure_domain.py`. -/
def FailureDomain.escapePrometheusLabel (value : String) : String :=
  String.ofList (TelemetryMetrics.replaceChar '"' ['\\', '"']
    (TelemetryMetrics.replaceChar '\n' ['\\', 'n']
      (TelemetryMetrics.replaceChar '\\' ['\\', '\\'] value.toList)))

namespace TelemetryMetrics

/-- The rules of the exposition format: a backslash before a backslash, a quote or the letter `n`. -/
def labelTable : Table Char where
  mark := '\\'
  code c := if c = '\\' then some '\\' else if c = '\n' then some 'n' else if c = '"' then some '"' else none
  decode d := if d = '\\' then some '\\' else if d = 'n' then some '\n' else if d = '"' then some '"' else
    none
  decode_code := by
    intro c d h
    split_ifs at h with hback hline hquote
    · obtain rfl := Option.some.inj h
      rw [hback]
      rfl
    · obtain rfl := Option.some.inj h
      rw [hline]
      rfl
    · obtain rfl := Option.some.inj h
      rw [hquote]
      rfl
  code_mark := rfl

def readLabel (text : String) : Option String := (labelTable.unescape text.toList).map String.ofList

def EscapedQuotes (text : String) : Prop :=
  ∀ before after, text.toList = before ++ '"' :: after → Odd (labelTable.trailing before)

theorem replaceChar_eq (c : Char) (replacement text : List Char) :
    replaceChar c replacement text = replace c replacement text := rfl

theorem replacements_eq (text : List Char) :
    replaceChar '"' ['\\', '"'] (replaceChar '\n' ['\\', 'n'] (replaceChar '\\' ['\\', '\\'] text)) =
      labelTable.escape text := by
  simp only [replaceChar_eq]
  have hback : replace '\\' ['\\', '\\'] text = text.flatMap fun c => if c = '\\' then ['\\', '\\'] else
      [c] := rfl
  rw [hback, replace_flatMap, replace_flatMap]
  refine List.flatMap_congr fun c _ => ?_
  by_cases hmark : c = '\\'
  · rw [hmark]
    decide
  by_cases hline : c = '\n'
  · rw [hline]
    decide
  by_cases hquote : c = '"'
  · rw [hquote]
    decide
  · simp [replace, Table.escapeOne, labelTable, hmark, hline, hquote]

theorem escapeLabel_toList (value : String) :
    (escapeLabel value).toList = labelTable.escape value.toList := by
  rw [escapeLabel, replacements_eq, String.toList_ofList]

theorem newline_not_mem_escapeLabel (value : String) : '\n' ∉ (escapeLabel value).toList := by
  rw [escapeLabel_toList]
  refine Table.not_mem_escape (d := 'n') rfl ?_ _
  intro c hc
  simp only [labelTable] at hc
  split_ifs at hc <;> simp at hc

theorem escapedQuotes_escapeLabel (value : String) : EscapedQuotes (escapeLabel value) := by
  intro before after h
  rw [escapeLabel_toList] at h
  exact Table.odd_trailing_before (d := '"') rfl (by decide) h

theorem readLabel_escapeLabel (value : String) : readLabel (escapeLabel value) = some value := by
  rw [readLabel, escapeLabel_toList, Table.unescape_escape, Option.map_some, String.ofList_toList]

def LosslessEscape (escape : String → String) : Prop :=
  ∀ value : String, (escape value).toList = value.toList.flatMap labelTable.escapeOne ∧
    '\n' ∉ (escape value).toList ∧
    EscapedQuotes (escape value) ∧ readLabel (escape value) = some value

theorem escapeLabel_lossless : LosslessEscape escapeLabel := fun value =>
  ⟨escapeLabel_toList value, newline_not_mem_escapeLabel value, escapedQuotes_escapeLabel value,
    readLabel_escapeLabel value⟩

end TelemetryMetrics

open TelemetryMetrics in
theorem label_escaping_lossless : LosslessEscape escapeLabel ∧
    LosslessEscape Resilience.escapePrometheusLabel ∧
    LosslessEscape FailureDomain.escapePrometheusLabel := by
  have hresilience : Resilience.escapePrometheusLabel = escapeLabel := rfl
  have hfailureDomain : FailureDomain.escapePrometheusLabel = escapeLabel := rfl
  rw [hresilience, hfailureDomain]
  exact ⟨escapeLabel_lossless, escapeLabel_lossless, escapeLabel_lossless⟩

end TelconetSentinel
