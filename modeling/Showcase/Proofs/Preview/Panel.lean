import Showcase.Proofs.Html.Markup
import Showcase.Proofs.Html.Tag
import Showcase.Proofs.Preview.Payload

/-!
# Texts in the document of an error and in the frame of a surface

The document of an error shows the texts of the error and publishes them, the frame of a surface holds a document and a
title. Whatever these texts are, the markup is the same: the document of an error has the tags that are written out for
it, and a frame the quotes and the tags of its own. The texts are read back from where they stand.

* `pieces_errorDocument` — the document of an error, piece by piece.
* `tokens_toFrame` — a frame as it is read.
-/

namespace Showcase.Preview

open Html (Piece)

/-! ## Texts that are shown -/

/-- Whether a string is there and not empty. -/
def isShown : Option JsonString → Bool
  | some s => !s.isEmpty
  | none => false

/-- What a string shows, if it is there and not empty. -/
def shown : Option JsonString → List String
  | some s => if s.isEmpty then [] else [s.shown]
  | none => []

theorem shown_cases (text : Option JsonString) :
    (isShown text = false ∧ shown text = []) ∨ ∃ s, isShown text = true ∧ shown text = [s] := by
  cases text with
  | none => exact .inl ⟨rfl, rfl⟩
  | some s =>
    cases hs : s.isEmpty with
    | true => exact .inl ⟨by rw [isShown, hs, Bool.not_true], by rw [shown, hs, if_pos rfl]⟩
    | false => exact .inr ⟨s.shown, by rw [isShown, hs, Bool.not_false], by rw [shown, hs, if_neg Bool.false_ne_true]⟩

/-! ## The pieces of a document -/

/-- The pieces of an element with a text. -/
def leaf (name text : String) : List Piece := [⟨name, Html.escape text⟩, ⟨"/" ++ name, ""⟩]

/-- What the script of an error publishes. -/
def publication (error : PreviewError) : Json := .ofMembers [("state", .ofString "errored"), ("error", error.toJson)]

/-- The script of an error. -/
def publicationScript (error : PreviewError) : String :=
  "window." ++ stateGlobal ++ " = " ++ scriptJson (publication error) ++ ";"

/-- The pieces before the style. -/
def openingPieces : List Piece :=
  [⟨"!DOCTYPE html", "\n"⟩, ⟨"html", "\n"⟩, ⟨"head", "\n"⟩, ⟨"meta charset=\"UTF-8\"", "\n"⟩]

/-- The pieces from the style up to the panel. -/
def panelPieces : List Piece :=
  [⟨"/style", "\n"⟩, ⟨"/head", "\n"⟩, ⟨"body", "\n"⟩, ⟨"div id=\"root\"", ""⟩, ⟨"div class=\"preview-error\"", ""⟩]

/-- The pieces from the panel up to the script. -/
def rootPieces : List Piece := [⟨"/div", ""⟩, ⟨"/div", "\n"⟩]

/-- The pieces behind the script. -/
def closingPieces : List Piece := [⟨"/script", "\n"⟩, ⟨"/body", "\n"⟩, ⟨"/html", "\n"⟩]

/-- The pieces of the document of an error. -/
def errorPieces (error : PreviewError) : List Piece :=
  openingPieces ++ [⟨"style", baseStyle ++ "\n" ++ panelStyle⟩] ++ panelPieces ++
    [error.title.shown].flatMap (leaf "h3") ++ [error.message.shown].flatMap (leaf "p") ++
    (shown error.excerpt).flatMap (leaf "pre") ++ (shown error.stack).flatMap (leaf "pre") ++
    rootPieces ++ [⟨"script", publicationScript error⟩] ++ closingPieces

/-! ## The pieces as markup -/

theorem write_leaf (name text : String) :
    (leaf name text).flatMap Piece.write =
      Html.writeTag name ++ (Html.escape text).toList ++ Html.writeTag ("/" ++ name) := by
  rw [leaf, List.flatMap_cons, List.flatMap_singleton, Piece.write, Piece.write, String.toList_empty, List.append_nil]

theorem toList_preformatted (text : Option JsonString) :
    (preformatted text).toList = ((shown text).flatMap (leaf "pre")).flatMap Piece.write := by
  cases text with
  | none => rfl
  | some s =>
    cases hs : s.isEmpty with
    | true => simp only [preformatted, shown, hs, if_true, List.flatMap_nil, String.toList_empty]
    | false =>
      simp only [preformatted, shown, hs, Bool.false_eq_true, if_false, List.flatMap_singleton, write_leaf,
        String.toList_append]
      rfl

theorem toList_opening : "<!DOCTYPE html>\n<html>\n<head>\n<meta charset=\"UTF-8\">\n<style>".toList =
    openingPieces.flatMap Piece.write ++ Html.writeTag "style" :=
  (Text.toList_of_eq rfl).trans (by simp [openingPieces, Piece.write, Html.writeTag])

theorem toList_panel : "</style>\n</head>\n<body>\n<div id=\"root\"><div class=\"preview-error\"><h3>".toList =
    panelPieces.flatMap Piece.write ++ Html.writeTag "h3" :=
  (Text.toList_of_eq rfl).trans (by simp [panelPieces, Piece.write, Html.writeTag])

theorem toList_between : "</h3><p>".toList = Html.writeTag "/h3" ++ Html.writeTag "p" :=
  (Text.toList_of_eq rfl).trans (by simp [Html.writeTag])

theorem toList_root : "</div></div>\n<script>window.".toList =
    rootPieces.flatMap Piece.write ++ Html.writeTag "script" ++ "window.".toList :=
  (Text.toList_of_eq rfl).trans (by simp [rootPieces, Piece.write, Html.writeTag])

theorem toList_closing : ";</script>\n</body>\n</html>\n".toList = ";".toList ++ closingPieces.flatMap Piece.write :=
  (Text.toList_of_eq rfl).trans (by simp [closingPieces, Piece.write, Html.writeTag])

theorem toList_errorDocument (error : PreviewError) :
    (errorDocument error).toList = (errorPieces error).flatMap Piece.write := by
  -- the lines of the style are many, so they stay folded in their names
  delta errorDocument
  dsimp only
  rw [errorPieces, publicationScript, ← publication]
  simp only [String.toList_append, toList_preformatted, toList_opening, toList_panel, toList_between, toList_root,
    toList_closing, List.flatMap_append, List.flatMap_singleton, write_leaf, Piece.write, List.append_assoc]
  rfl

/-! ## No piece opens another one -/

theorem isPlain_leaves {name : String} (hname : '<' ∉ name.toList ∧ '>' ∉ name.toList) (texts : List String) :
    ∀ piece ∈ texts.flatMap (leaf name), piece.IsPlain := by
  have hclosing : '<' ∉ ("/" ++ name).toList ∧ '>' ∉ ("/" ++ name).toList := by
    rw [String.toList_append, Text.toList_of_eq (s := "/") rfl]
    simp [hname]
  intro piece hpiece
  obtain ⟨text, -, hmem⟩ := List.mem_flatMap.mp hpiece
  have hescaped : Piece.IsPlain ⟨name, Html.escape text⟩ :=
    Piece.isPlain_iff.mpr ⟨hname, Html.not_mem_escape (by decide) text⟩
  have hclosed : Piece.IsPlain ⟨"/" ++ name, ""⟩ := Piece.isPlain_iff.mpr ⟨hclosing, List.not_mem_nil⟩
  rcases List.mem_pair.mp hmem with rfl | rfl
  · exact hescaped
  · exact hclosed

theorem not_mem_joinLines {c : Char} (hc : c ≠ '\n') {lines : List String}
    (hlines : ∀ line ∈ lines, c ∉ line.toList) : c ∉ (joinLines lines).toList := by
  rw [joinLines, String.toList_intercalate]
  intro hmem
  rcases Text.mem_intercalate hmem with rfl | ⟨piece, hpiece, hin⟩
  · exact hc rfl
  · obtain ⟨line, hline, rfl⟩ := List.mem_map.mp hpiece
    exact hlines line hline hin

set_option maxRecDepth 1000 in
theorem not_mem_style : '<' ∉ (baseStyle ++ "\n" ++ panelStyle).toList := by
  have hlines : ∀ line ∈ baseStyleLines ++ panelStyleLines, '<' ∉ line.toList := by
    rw [baseStyleLines, panelStyleLines, List.cons_append]
    repeat' first
      | exact List.forall_mem_nil _
      | refine List.forall_mem_cons.mpr ⟨Text.not_mem_of_eq rfl (by decide +kernel), ?_⟩
  obtain ⟨hbase, hpanel⟩ := List.forall_mem_append.mp hlines
  simp only [String.toList_append, List.mem_append, not_or]
  exact ⟨⟨not_mem_joinLines (by decide) hbase, by simp⟩, not_mem_joinLines (by decide) hpanel⟩

theorem not_mem_publicationScript (error : PreviewError) : '<' ∉ (publicationScript error).toList := by
  have hjson := not_mem_scriptJson (publication error)
  simp [publicationScript, stateGlobal, hjson]

theorem isPlain_errorPieces (error : PreviewError) : ∀ piece ∈ errorPieces error, piece.IsPlain := by
  have hstyle : Piece.IsPlain ⟨"style", baseStyle ++ "\n" ++ panelStyle⟩ :=
    Piece.isPlain_iff.mpr ⟨by simp, not_mem_style⟩
  have hscript : Piece.IsPlain ⟨"script", publicationScript error⟩ :=
    Piece.isPlain_iff.mpr ⟨by simp, not_mem_publicationScript error⟩
  have hopening : ∀ piece ∈ openingPieces, piece.IsPlain := by simp [openingPieces, Piece.isPlain_iff]
  have hpanel : ∀ piece ∈ panelPieces, piece.IsPlain := by simp [panelPieces, Piece.isPlain_iff]
  have hroot : ∀ piece ∈ rootPieces, piece.IsPlain := by simp [rootPieces, Piece.isPlain_iff]
  have hclosing : ∀ piece ∈ closingPieces, piece.IsPlain := by simp [closingPieces, Piece.isPlain_iff]
  have htitle := isPlain_leaves (by simp : '<' ∉ "h3".toList ∧ '>' ∉ "h3".toList)
  have hmessage := isPlain_leaves (by simp : '<' ∉ "p".toList ∧ '>' ∉ "p".toList)
  have hshown := isPlain_leaves (by simp : '<' ∉ "pre".toList ∧ '>' ∉ "pre".toList)
  simp only [errorPieces, List.forall_mem_append, List.forall_mem_singleton]
  exact ⟨⟨⟨⟨⟨⟨⟨⟨⟨hopening, hstyle⟩, hpanel⟩, htitle _⟩, hmessage _⟩, hshown _⟩, hshown _⟩, hroot⟩, hscript⟩, hclosing⟩

theorem pieces_errorDocument (error : PreviewError) : Html.pieces (errorDocument error) = errorPieces error :=
  Html.pieces_write (isPlain_errorPieces error) (toList_errorDocument error)

/-! ## What a document of an error says -/

/-- The tags of the document of an error, by whether it shows a source and whether it shows a stack. -/
def errorTags (excerpt stack : Bool) : List String :=
  ["!DOCTYPE html", "html", "head", "meta charset=\"UTF-8\"", "style", "/style", "/head", "body", "div id=\"root\"",
    "div class=\"preview-error\"", "h3", "/h3", "p", "/p"] ++
  (if excerpt then ["pre", "/pre"] else []) ++ (if stack then ["pre", "/pre"] else []) ++
  ["/div", "/div", "script", "/script", "/body", "/html"]

theorem tags_shown (text : Option JsonString) :
    ((shown text).flatMap (leaf "pre")).map Piece.tag = if isShown text then ["pre", "/pre"] else [] := by
  rcases shown_cases text with ⟨hshown, hnone⟩ | ⟨s, hshown, hsome⟩
  · rw [hshown, hnone]
    rfl
  · rw [hshown, hsome]
    rfl

theorem tags_errorDocument (error : PreviewError) :
    Html.tags (errorDocument error) = errorTags (isShown error.excerpt) (isShown error.stack) := by
  rw [Html.tags, pieces_errorDocument, errorPieces, errorTags]
  simp only [List.map_append, tags_shown, List.append_assoc]
  rfl

/-- Elements with a text give their texts if they are asked for. -/
theorem textsAmong_leaves {tags : List String} {name : String} (hclosing : tags.contains ("/" ++ name) = false)
    (texts : List String) :
    Html.textsAmong tags (texts.flatMap (leaf name)) = if tags.contains name then texts.map Html.escape else [] := by
  induction texts with
  | nil => simp [Html.textsAmong]
  | cons text others ih =>
    have hleaf : Html.textsAmong tags (leaf name text) = if tags.contains name then [Html.escape text] else [] := by
      rw [leaf, ← List.singleton_append, Html.textsAmong_append, Html.textsAmong_singleton, Html.textsAmong_singleton,
        hclosing, if_neg Bool.false_ne_true, List.append_nil]
    rw [List.flatMap_cons, Html.textsAmong_append, ih, hleaf]
    cases tags.contains name <;> rfl

/-- The texts of a document of an error behind tags that are not among the fixed ones without a text. -/
theorem textsBehind_errorDocument {tags : List String}
    (hfixed : ∀ parts ∈ [openingPieces, panelPieces, rootPieces, closingPieces], Html.textsAmong tags parts = [])
    (hclosing : ∀ name ∈ ["h3", "p", "pre"], tags.contains ("/" ++ name) = false) (error : PreviewError) :
    Html.textsBehind tags (errorDocument error) =
      (if tags.contains "style" then [baseStyle ++ "\n" ++ panelStyle] else []) ++
      (if tags.contains "h3" then [error.title.shown].map Html.escape else []) ++
      (if tags.contains "p" then [error.message.shown].map Html.escape else []) ++
      (if tags.contains "pre" then (shown error.excerpt).map Html.escape else []) ++
      (if tags.contains "pre" then (shown error.stack).map Html.escape else []) ++
      (if tags.contains "script" then [publicationScript error] else []) := by
  simp only [List.forall_mem_cons] at hfixed hclosing
  obtain ⟨hopening, hpanel, hroot, hclosed, -⟩ := hfixed
  obtain ⟨htitle, hmessage, hshown, -⟩ := hclosing
  rw [Html.textsBehind, pieces_errorDocument, errorPieces]
  simp only [Html.textsAmong_append, Html.textsAmong_singleton, hopening, hpanel, hroot, hclosed, List.append_nil,
    List.nil_append, textsAmong_leaves htitle, textsAmong_leaves hmessage, textsAmong_leaves hshown]

theorem textsBehind_panel (error : PreviewError) :
    Html.textsBehind ["h3", "p", "pre"] (errorDocument error) =
      ([error.title.shown, error.message.shown] ++ shown error.excerpt ++ shown error.stack).map Html.escape := by
  rw [textsBehind_errorDocument]
  · simp
  · simp [Html.textsAmong, openingPieces, panelPieces, rootPieces, closingPieces]
  · simp

theorem textsBehind_script (error : PreviewError) :
    Html.textsBehind ["script"] (errorDocument error) = [publicationScript error] := by
  rw [textsBehind_errorDocument]
  · simp
  · simp [Html.textsAmong, openingPieces, panelPieces, rootPieces, closingPieces]
  · simp

/-! ## What is published -/

theorem travels_publication (error : PreviewError) : (publication error).Travels := by
  have hnames : ["kind", "title", "message", "stack", "excerpt"].Nodup := by decide
  have herror : error.toJson.Travels := by
    refine .ofMembers hnames ?_
    simp only [List.forall_mem_cons]
    exact ⟨.text _, .str _, .str _, .ofNullable _, .ofNullable _, nofun⟩
  have hmembers : ["state", "error"].Nodup := by decide
  refine .ofMembers hmembers ?_
  simp only [List.forall_mem_cons]
  exact ⟨.text _, herror, nofun⟩

/-! ## Frames -/

theorem isSmallName_frame :
    Html.IsSmallName "iframe" ∧ Html.IsSmallName "title" ∧ Html.IsSmallName "sandbox" ∧ Html.IsSmallName "srcdoc" := by
  refine ⟨⟨?_, ?_⟩, ⟨?_, ?_⟩, ⟨?_, ?_⟩, ⟨?_, ?_⟩⟩ <;> simp [Html.smallLetters]

theorem readMarkup_frameEnd :
    Html.readMarkup ['<', '/', 'i', 'f', 'r', 'a', 'm', 'e', '>'] = .go [.endTag "iframe"] none [] := rfl

theorem toList_toFrame (surface : Surface) (document title : String) :
    (({ surface with document := some document } : Surface).toFrame title).toList =
      '<' :: ("iframe".toList ++ Html.quotedAll [("title", title), ("sandbox", sandboxPolicy), ("srcdoc", document)]
        ['>', '<', '/', 'i', 'f', 'r', 'a', 'm', 'e', '>']) := by
  have hpolicy : (Html.escape sandboxPolicy).toList = sandboxPolicy.toList := by
    simp [Html.toList_escape, Html.escapeChar, sandboxPolicy]
  simp only [Surface.toFrame, Html.quotedAll, Html.quoted, List.foldr_cons, List.foldr_nil, hpolicy,
    String.toList_append]
  simp

/-- A frame is read as one element that has the title and the document as they are. -/
theorem tokens_toFrame (surface : Surface) (document title : String) :
    Html.tokens (({ surface with document := some document } : Surface).toFrame title).toList =
      .ok [.startTag "iframe" [("title", title), ("sandbox", sandboxPolicy), ("srcdoc", document)] false,
        .endTag "iframe"] := by
  obtain ⟨hname, htitle, hsandbox, hdocument⟩ := isSmallName_frame
  rw [toList_toFrame]
  refine Html.tokens_element hname (by simp [Html.rawElements]) ?_ readMarkup_frameEnd
  simp only [List.forall_mem_cons]
  exact ⟨htitle, hsandbox, hdocument, nofun⟩

/-- Whatever texts an error has, its document opens the tags that are fixed for it and no other angle bracket; its
heading, its paragraph and its blocks show the title, the message, the source and the stack; and its script publishes the
whole error. Whatever document a surface holds, its frame has the quotes and the opening angle brackets of its own only,
and it is read as one element with the title and the document. -/
theorem texts_are_no_markup (error : PreviewError) (surface : Surface) (document title : String) :
    (Html.tags (errorDocument error) = errorTags (isShown error.excerpt) (isShown error.stack) ∧
      (errorDocument error).toList.count '<' = (errorTags (isShown error.excerpt) (isShown error.stack)).length ∧
      (Html.textsBehind ["h3", "p", "pre"] (errorDocument error)).map Html.unescape =
        [error.title.shown, error.message.shown] ++ shown error.excerpt ++ shown error.stack ∧
      ∃ json, Html.textsBehind ["script"] (errorDocument error) = ["window.__componentPreview = " ++ json ++ ";"] ∧
        Json.read json.toList = .ok (.ofMembers [("state", .ofString "errored"), ("error", .ofMembers
          [("kind", .ofString error.kind.name), ("title", .str error.title), ("message", .str error.message),
            ("stack", .ofNullable error.stack), ("excerpt", .ofNullable error.excerpt)])])) ∧
    let frame := ({ surface with document := some document } : Surface).toFrame title
    (∃ titleText documentText, frame = "<iframe title=\"" ++ titleText ++ "\" sandbox=\"allow-scripts\" srcdoc=\"" ++
        documentText ++ "\"></iframe>" ∧
      (∀ c ∈ ['<', '"'], c ∉ titleText.toList ∧ c ∉ documentText.toList) ∧
      Html.unescape titleText = title ∧ Html.unescape documentText = document) ∧
    Html.tokens frame.toList =
      .ok [.startTag "iframe" [("title", title), ("sandbox", "allow-scripts"), ("srcdoc", document)] false,
        .endTag "iframe"] := by
  refine ⟨⟨tags_errorDocument error, ?_, ?_, ?_⟩, ?_, tokens_toFrame surface document title⟩
  · rw [← tags_errorDocument, ← Html.length_pieces, Html.tags, List.length_map]
  · rw [textsBehind_panel, List.map_map, Function.comp_def]
    simp only [Html.unescape_escape, List.map_id']
  · refine ⟨scriptJson (publication error), ?_, read_scriptJson (travels_publication error)⟩
    have hglobal : "window." ++ stateGlobal ++ " = " = "window.__componentPreview = " := by
      simp [stateGlobal]
    rw [textsBehind_script, publicationScript, hglobal]
  · have hsandbox : "\" sandbox=\"" ++ sandboxPolicy ++ "\" srcdoc=\"" = "\" sandbox=\"allow-scripts\" srcdoc=\"" := by
      simp [sandboxPolicy]
    refine ⟨Html.escape title, Html.escape document, ?_, ?_, Html.unescape_escape title, Html.unescape_escape document⟩
    · rw [Surface.toFrame, ← hsandbox]
      simp only [String.append_assoc]
    · intro c hc
      have hmarkup : ['<', '"'] ⊆ Html.bracketsAndQuotes := by simp [Html.bracketsAndQuotes]
      exact ⟨Html.not_mem_escape (hmarkup hc) title, Html.not_mem_escape (hmarkup hc) document⟩

end Showcase.Preview
