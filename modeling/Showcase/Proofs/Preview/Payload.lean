import Showcase.Preview.Document
import Showcase.Proofs.Json.Ascii
import Showcase.Proofs.Number.Magnitude
import Showcase.Proofs.Record.Field
import Showcase.Proofs.Text.Occurrence

/-!
# The payload of a runtime document

A runtime document carries its component as JSON in a script of its own. Whatever stands before it, the text between the
last opening tag of such a script and the next closing tag is the JSON, of ASCII and without opening angle brackets, and
it is read as the component that was written.
-/

namespace Showcase.Preview

/-! ## JSON in a script -/

theorem toList_scriptJson (value : Json) : (scriptJson value).toList = value.spell .inScript := String.toList_ofList

/-- No opening angle bracket is left, whatever value is written. -/
theorem not_mem_scriptJson (value : Json) : '<' ∉ (scriptJson value).toList := by
  rw [toList_scriptJson, Json.spell, List.mem_flatMap]
  rintro ⟨c, -, hmem⟩
  by_cases hc : c = '<'
  · subst hc
    exact Json.not_mem_unicodeEscape _ hmem
  · rw [Json.Spelling.isLegible_inScript.respell_of_ne c hc, List.mem_singleton] at hmem
    exact hc hmem.symm

theorem ascii_scriptJson {value : Json} (h : value.Travels) : ∀ c ∈ (scriptJson value).toList, c.toNat < 128 := by
  rw [toList_scriptJson]
  intro c hc
  obtain ⟨written, hwritten, hmem⟩ := List.mem_flatMap.mp hc
  by_cases hangle : written = '<'
  · subst hangle
    exact Json.ascii_unicodeEscape _ c hmem
  · rw [Json.Spelling.isLegible_inScript.respell_of_ne written hangle, List.mem_singleton] at hmem
    subst hmem
    exact h.ascii_write c hwritten

theorem read_scriptJson {value : Json} (h : value.Travels) : Json.read (scriptJson value).toList = .ok value := by
  rw [toList_scriptJson]
  exact h.read_spell Json.Spelling.isLegible_inScript

/-! ## The payload in its document -/

/-- The tag that opens the script of the payload. -/
def payloadTag : String := "<script type=\"application/json\" id=\"component-config\">"

/-- The tag that closes a script. -/
def closingTag : String := "</script>"

/-- The text of a document between the last opening tag of a payload and the next closing tag. -/
def carried? (document : String) : Option (List Char) :=
  (Text.afterLastOf? payloadTag.toList document.toList).bind (Text.beforeFirstOf? closingTag.toList)

/-- The script that starts the component opens no tag of a script. -/
theorem hasPair_bootstrapScript : Text.hasPair '<' 's' bootstrapScript.toList = false := by
  have hlines : ∀ line ∈ bootstrapLines, Text.hasPair '<' 's' line.toList = false := by
    rw [bootstrapLines]
    repeat' first
      | exact List.forall_mem_nil _
      | refine List.forall_mem_cons.mpr ⟨Text.hasPair_of_eq rfl (by decide +kernel), ?_⟩
  rw [bootstrapScript, joinLines, String.toList_intercalate]
  refine Text.hasPair_intercalate (c := '\n') (by decide) (by decide) fun line hline => ?_
  obtain ⟨written, hwritten, rfl⟩ := List.mem_map.mp hline
  exact hlines written hwritten

/-- No payload is opened behind the script of a payload if no tag of a script is, but for the next one. -/
theorem afterLastOf?_behind {rest : List Char} (hrest : Text.hasPair '<' 's' rest = false) :
    Text.afterLastOf? payloadTag.toList ("</script>\n<script>".toList ++ rest) = none := by
  obtain ⟨later, htag⟩ : ∃ later, payloadTag.toList = '<' :: 's' :: 'c' :: 'r' :: 'i' :: 'p' :: 't' :: ' ' :: later :=
    ⟨_, Text.toList_of_eq rfl⟩
  have hnone : ∀ later, Text.afterLastOf? ('<' :: 's' :: later) rest = none :=
    fun _ => Text.afterLastOf?_of_hasPair hrest
  -- the next script has no type
  rw [htag, Text.toList_of_eq (s := "</script>\n<script>") rfl]
  simp [Text.afterLastOf?, List.isPrefixOf, hnone]

/-- At the end of a document tags are closed only. -/
theorem hasPair_ending {s : List Char} (hs : Text.hasPair '<' 's' s = false) :
    Text.hasPair '<' 's' (s ++ "</script>\n</body>\n</html>\n".toList) = false := by
  rw [Text.toList_of_eq (s := "</script>\n</body>\n</html>\n") rfl, Text.hasPair_append (by decide), hs]
  decide

/-- What a document carries behind an opening tag is the text up to the closing tag, if no other payload is opened. -/
theorem carried?_append {json behind : List Char} (hjson : '<' ∉ json)
    (hbehind : Text.afterLastOf? payloadTag.toList ("</script>\n<script>".toList ++ behind) = none) {document : String}
    (before : List Char) (hdocument : document.toList =
      before ++ (payloadTag.toList ++ (json ++ ("</script>\n<script>".toList ++ behind)))) :
    carried? document = some json := by
  obtain ⟨later, htag, hlater⟩ : ∃ later, payloadTag.toList = '<' :: later ∧ '<' ∉ later :=
    ⟨_, Text.toList_of_eq rfl, by decide⟩
  obtain ⟨tail, next, hclosing, hnext⟩ : ∃ tail next, closingTag.toList = '<' :: tail ∧
      "</script>\n<script>".toList = '<' :: tail ++ next :=
    ⟨_, _, Text.toList_of_eq rfl, Text.toList_of_eq (s := "</script>\n<script>") rfl⟩
  rw [htag] at hbehind hdocument
  have hlast : Text.afterLastOf? ('<' :: later)
      (later ++ (json ++ ("</script>\n<script>".toList ++ behind))) = none := by
    rw [Text.afterLastOf?_skip hlater, Text.afterLastOf?_skip hjson, hbehind]
  rw [carried?, htag, hclosing, hdocument, Text.afterLastOf?_append hlast, Option.bind_some, hnext, List.append_assoc,
    Text.beforeFirstOf?_append hjson]

theorem carried?_runtimeDocument (libraries : Libraries) (component : Script.Prepared) (css : String)
    (patience : Patience) :
    carried? (runtimeDocument libraries component css patience) =
      some (scriptJson (payload component patience)).toList := by
  obtain ⟨before, hdocument⟩ : ∃ before, runtimeDocument libraries component css patience =
      before ++ payloadTag ++ scriptJson (payload component patience) ++ "</script>\n<script>" ++ bootstrapScript ++
        "</script>\n</body>\n</html>\n" := by
    -- what stands before the tag, the style included, is one text that is not looked into
    delta runtimeDocument payloadTag
    exact ⟨_, rfl⟩
  refine carried?_append (not_mem_scriptJson _) (afterLastOf?_behind (hasPair_ending hasPair_bootstrapScript))
    before.toList ?_
  rw [hdocument]
  repeat rw [String.toList_append]
  repeat rw [List.append_assoc]

/-! ## What the payload says -/

/-- A time that comes to a whole number of milliseconds, which has at most 4300 digits and so can be written. -/
structure IsCounted (interval : Seconds) : Prop where
  counted : ∃ milliseconds, interval.milliseconds? = some milliseconds
  written : ∀ milliseconds, interval.milliseconds? = some milliseconds → milliseconds.natAbs < 10 ^ 4300

/-- A fractional time comes to a number of milliseconds that can be written, unless they are not finite. -/
theorem isCounted_fractional {x : Double} :
    IsCounted (.fractional x) ↔ ∃ milliseconds, (Seconds.fractional x).milliseconds? = some milliseconds := by
  refine ⟨IsCounted.counted, fun h => ⟨h, fun milliseconds hcounted => ?_⟩⟩
  exact Double.truncated?_lt (Double.isModest_times x _) hcounted

theorem milliseconds?_standard : Patience.standard.interval.milliseconds? = some 100 := by
  show ((Double.ofDecimal false 1 (-1)).times (Double.ofInt 1000)).truncated? = some 100
  decide +kernel

theorem isCounted_standard : IsCounted Patience.standard.interval := isCounted_fractional.mpr ⟨100, milliseconds?_standard⟩

theorem documentFor_of_isCounted (libraries : Libraries) (component : Script.Prepared) (css : String) {patience : Patience}
    (h : IsCounted patience.interval) :
    documentFor libraries component css patience = .ok (runtimeDocument libraries component css patience) := by
  obtain ⟨milliseconds, hcounted⟩ := h.counted
  rw [documentFor, hcounted]

theorem payload_eq (component : Script.Prepared) {patience : Patience} {milliseconds : Int}
    (h : patience.interval.milliseconds? = some milliseconds) :
    payload component patience = .ofMembers [("name", .ofString component.name), ("code", .ofString component.code),
      ("pollInterval", .int milliseconds), ("maxAttempts", .int patience.attempts)] := by
  rw [payload, h, Option.map_some, Option.getD_some]

theorem travels_payload (component : Script.Prepared) {patience : Patience} (hinterval : IsCounted patience.interval)
    (hattempts : patience.attempts.natAbs < 10 ^ 4300) : (payload component patience).Travels := by
  have hnames : ["name", "code", "pollInterval", "maxAttempts"].Nodup := by decide
  obtain ⟨milliseconds, hcounted⟩ := hinterval.counted
  rw [payload_eq component hcounted]
  refine .ofMembers hnames ?_
  simp only [List.forall_mem_cons]
  exact ⟨.text _, .text _, .int _ (hinterval.written _ hcounted), .int _ hattempts, nofun⟩

/-- A document that runs a component, with whatever style before, carries between the last opening tag of a payload and
the next closing tag a text of ASCII without opening angle brackets that is read as the name and the code of the
component, the milliseconds and the number of looks. Both numbers have at most 4300 digits, since no others are written as
JSON, and a time has milliseconds unless it is not finite. And any value is written for a script without opening angle
brackets, and read back as it was if its numbers are whole and can be written, and its objects name no member twice. -/
theorem payload_intact (libraries : Libraries) (component : Script.Prepared) (css : String) (patience : Patience)
    (hinterval : IsCounted patience.interval) (hattempts : patience.attempts.natAbs < 10 ^ 4300) :
    (∃ json milliseconds, carried? (runtimeDocument libraries component css patience) = some json ∧
      (∀ c ∈ json, c.toNat < 128 ∧ c ≠ '<') ∧ patience.interval.milliseconds? = some milliseconds ∧
      Json.read json = .ok (.ofMembers [("name", .ofString component.name), ("code", .ofString component.code),
        ("pollInterval", .int milliseconds), ("maxAttempts", .int patience.attempts)])) ∧
    ∀ value : Json, '<' ∉ (scriptJson value).toList ∧
      (value.Travels → Json.read (scriptJson value).toList = .ok value) := by
  have htravels := travels_payload component hinterval hattempts
  obtain ⟨milliseconds, hcounted⟩ := hinterval.counted
  refine ⟨⟨_, milliseconds, carried?_runtimeDocument libraries component css patience, ?_, hcounted, ?_⟩,
    fun value => ⟨not_mem_scriptJson value, read_scriptJson⟩⟩
  · intro c hc
    refine ⟨ascii_scriptJson htravels c hc, ?_⟩
    rintro rfl
    exact not_mem_scriptJson _ hc
  · rw [← payload_eq component hcounted]
    exact read_scriptJson htravels

/-- A code that closes its script, behind a style that opens a payload of its own. -/
theorem payload_intact_hostile :
    let code := "</script><!-- \\\" \u0001 😀"
    (∃ json, carried? (runtimeDocument .standard ⟨"Hero", code⟩ payloadTag .standard) = some json ∧
      Json.read json = .ok (.ofMembers [("name", .ofString "Hero"), ("code", .ofString code),
        ("pollInterval", .int 100), ("maxAttempts", .int 50)])) ∧
    Json.read (scriptJson (.arr [.ofString code, .null])).toList = .ok (.arr [.ofString code, .null]) := by
  intro code
  have hattempts : Patience.standard.attempts.natAbs < 10 ^ 4300 :=
    Field.natAbs_lt_of_fewer (show _ < 10 ^ 2 by decide) (by decide)
  obtain ⟨⟨json, milliseconds, hcarried, -, hcounted, hread⟩, hvalues⟩ :=
    payload_intact .standard ⟨"Hero", code⟩ payloadTag .standard isCounted_standard hattempts
  obtain rfl : 100 = milliseconds := Option.some.inj (milliseconds?_standard.symm.trans hcounted)
  refine ⟨⟨json, hcarried, hread⟩, (hvalues _).2 (.arr _ ?_)⟩
  simp only [List.forall_mem_cons]
  exact ⟨.text code, .null, nofun⟩

end Showcase.Preview
