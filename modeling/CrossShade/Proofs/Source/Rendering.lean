import CrossShade.Proofs.Text.Cutting
import CrossShade.Source

/-!
# Rendered source texts

Every item of a source text is rendered as whole lines, so lines of code stay lines of the text.

* `infix_lines_of_items` finds lines that are copied, and `infix_lines_of_function` those in the
  body of a function.
-/

namespace CrossShade.Source

open Text

variable {text : Source} {code : List String}

/-- The lines of a rendered text: what stands between line feeds. -/
def lines (text : Source) : List (List Char) :=
  pieces (· == '\n') text.render.toList

theorem toList_line (text : String) : (line text).toList = text.toList ++ ['\n'] :=
  String.toList_append

theorem isWhole_line (text : String) : IsWhole (line text).toList := by
  rw [toList_line]
  exact .inr List.getLast?_concat

theorem isWhole_append {first second : String} (hfirst : IsWhole first.toList)
    (hsecond : IsWhole second.toList) : IsWhole (first ++ second).toList := by
  rw [String.toList_append]
  exact hfirst.append hsecond

theorem isWhole_join {texts : List String} (h : ∀ text ∈ texts, IsWhole text.toList) :
    IsWhole (String.join texts).toList := by
  rw [String.toList_join]
  exact isWhole_flatMap h

theorem isWhole_join_lines {α : Type} (list : List α) (content : α → String) :
    IsWhole (String.join (list.map fun x => line (content x))).toList := by
  refine isWhole_join fun text htext => ?_
  obtain ⟨x, -, rfl⟩ := List.mem_map.mp htext
  exact isWhole_line (content x)

theorem isWhole_membersText (members : List Declaration) : IsWhole (membersText members).toList :=
  isWhole_append (isWhole_append (isWhole_line _) (isWhole_join_lines members _)) (isWhole_line _)

/-- What a function is rendered as before its body. -/
def Function.openingText (f : Function) : String :=
  String.join (f.attributes.map fun text => line s!"[{text}]") ++
    line (f.returns ++ " " ++ f.name ++ parametersText f.parameters) ++ line "\x7b"

theorem isWhole_openingText (f : Function) : IsWhole f.openingText.toList :=
  isWhole_append (isWhole_append (isWhole_join_lines f.attributes _) (isWhole_line _))
    (isWhole_line _)

theorem Function.text_eq (f : Function) :
    f.text = f.openingText ++ String.join (f.body.map line) ++ line "\x7d" := rfl

/-- Every item is rendered as whole lines. -/
theorem isWhole_text (item : Item) : IsWhole item.text.toList := by
  cases item with
  | struct name members => exact isWhole_append (isWhole_line _) (isWhole_membersText members)
  | block name header members => exact isWhole_append (isWhole_line _) (isWhole_membersText members)
  | function f =>
    exact isWhole_append (isWhole_append (isWhole_openingText f) (isWhole_join_lines f.body id))
      (isWhole_line _)
  | _ => exact isWhole_line _

theorem toList_render (text : Source) :
    text.render.toList = text.items.flatMap fun item => item.text.toList := by
  rw [render, String.toList_join, List.flatMap_map]

theorem toList_join_lines (code : List String) :
    (String.join (code.map line)).toList = (code.map String.toList).flatMap (· ++ ['\n']) := by
  simp only [String.toList_join, List.flatMap_map, toList_line]

/-- Lines that are copied as they are. -/
theorem infix_lines_of_items (hcode : ∀ line ∈ code, '\n' ∉ line.toList)
    (h : code.map .verbatim <:+: text.items) : code.map String.toList <:+: text.lines := by
  obtain ⟨before, after, hitems⟩ := h
  have hlines : ((code.map Item.verbatim).flatMap fun item => item.text.toList) =
      (code.map String.toList).flatMap (· ++ ['\n']) := by
    simp only [List.flatMap_map, Item.text, toList_line]
  rw [lines, toList_render, ← hitems, List.flatMap_append, List.flatMap_append, hlines]
  exact infix_pieces (isWhole_flatMap fun item _ => isWhole_text item)
    (List.forall_mem_map.mpr hcode) _

/-- Lines in the body of a function. -/
theorem infix_lines_of_function {f : Function} (hcode : ∀ line ∈ code, '\n' ∉ line.toList)
    (hf : .function f ∈ text.items) (h : code <:+: f.body) :
    code.map String.toList <:+: text.lines := by
  obtain ⟨before, after, hitems⟩ := List.append_of_mem hf
  obtain ⟨opening, closing, hbody⟩ := h
  have hbefore : IsWhole ((before.flatMap fun item => item.text.toList) ++
      (f.openingText.toList ++ (String.join (opening.map line)).toList)) :=
    (isWhole_flatMap fun item _ => isWhole_text item).append
      ((isWhole_openingText f).append (isWhole_join_lines opening id))
  have htext : text.render.toList = ((before.flatMap fun item => item.text.toList) ++
      (f.openingText.toList ++ (String.join (opening.map line)).toList)) ++
      (code.map String.toList).flatMap (· ++ ['\n']) ++
      ((String.join (closing.map line)).toList ++ (line "\x7d").toList ++
        after.flatMap fun item => item.text.toList) := by
    rw [toList_render, hitems, List.flatMap_append, List.flatMap_cons, Item.text, Function.text_eq,
      ← hbody, ← toList_join_lines]
    simp only [List.map_append, String.join_append, String.toList_append, List.append_assoc]
  rw [lines, htext]
  exact infix_pieces hbefore (List.forall_mem_map.mpr hcode) _

end CrossShade.Source
