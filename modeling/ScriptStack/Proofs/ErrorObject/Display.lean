import Mathlib.Logic.Function.Basic
import ScriptStack.ErrorObject.Basic
import ScriptStack.Proofs.Integer.Decimal
/-!
Error objects as they are displayed.  No blank is written in a number, so the
code begins behind the last blank of the text (`toList_display`), whatever the
message looks like, and the text tells the two apart (`display_injective`).
-/

namespace ScriptStack.ErrorObject

theorem eq_nil_of_last_mark {α : Type} {mark : α} {between rest rest' : List α}
    (hrest : mark ∉ rest) (htext : mark :: rest = between ++ mark :: rest') :
    between = [] := by
  cases between with
  | nil => rfl
  | cons c between =>
      have hbehind : rest = between ++ mark :: rest' := (List.cons.inj htext).2
      rw [hbehind] at hrest
      exact absurd (List.mem_append_right between List.mem_cons_self) hrest

/-- A text is split in one way only at its last mark. -/
theorem append_mark_inj {α : Type} {mark : α} {front front' rest rest' : List α}
    (hrest : mark ∉ rest) (hrest' : mark ∉ rest')
    (htext : front ++ mark :: rest = front' ++ mark :: rest') :
    front = front' ∧ rest = rest' := by
  have hfront : front = front' := by
    rcases List.append_eq_append_iff.mp htext with
      ⟨between, hlonger, hmark⟩ | ⟨between, hlonger, hmark⟩
    · rw [hlonger, eq_nil_of_last_mark hrest hmark, List.append_nil]
    · rw [hlonger, eq_nil_of_last_mark hrest' hmark, List.append_nil]
  rw [hfront] at htext
  exact ⟨hfront, (List.cons.inj (List.append_cancel_left htext)).2⟩

/-- A displayed text up to its last blank and behind it. -/
theorem toList_display (e : ErrorObject) :
    e.display.toList = (e.message.toList ++ " (code".toList) ++
      ' ' :: ((Decimal.render e.code.toInt).toList ++ [')']) := by
  have hmark : " (code ".toList = " (code".toList ++ [' '] := by decide
  have hend : ")".toList = [')'] := by decide
  simp only [display, Decimal.render, String.toList_append, hmark, hend,
    List.append_assoc, List.cons_append, List.nil_append]

theorem blank_not_mem_code (code : Int32) :
    ' ' ∉ (Decimal.render code.toInt).toList ++ [')'] := by
  rw [List.mem_append, not_or]
  exact ⟨Decimal.not_mem_render (by decide) (by decide) _, by decide⟩

theorem display_injective : Function.Injective display := by
  intro e e' htext
  have hchars := congrArg String.toList htext
  rw [toList_display, toList_display] at hchars
  obtain ⟨hfront, hback⟩ := append_mark_inj (blank_not_mem_code e.code)
    (blank_not_mem_code e'.code) hchars
  have hmessage : e.message = e'.message :=
    String.toList_inj.mp (List.append_cancel_right hfront)
  have hcode : e.code = e'.code := by
    apply Int32.toInt_inj.mp
    apply Decimal.render_injective
    exact String.toList_inj.mp (List.append_cancel_right hback)
  cases e
  cases e'
  exact congrArg₂ mk hcode hmessage

/-- Two error objects are displayed alike just if they are the same one, also
where a message is empty or looks like a displayed text itself. -/
theorem display_tells_apart (e e' : ErrorObject) :
    e.display = e'.display ↔ e = e' :=
  display_injective.eq_iff

-- messages that look like displayed texts, with the codes swapped
example : display ⟨1, "a (code 2)"⟩ = "a (code 2) (code 1)" ∧
    display ⟨2, "a (code 1)"⟩ = "a (code 1) (code 2)" := by decide +kernel

end ScriptStack.ErrorObject
