import Collate.Proofs.Inspect
import Collate.Proofs.Number.Nearest

namespace Collate.Json

inductive IsExact : Json → Prop
  | null : IsExact .null
  | bool (b : Bool) : IsExact (.bool b)
  | number {n : Int} (h : n.natAbs ≤ 2 ^ 53) : IsExact (.number (.integer n))
  | string (s : String) : IsExact (.string s)
  | array {items : List Json} (h : ∀ v ∈ items, IsExact v) : IsExact (.array items)
  | object {entries : List (String × Json)} (h : ∀ e ∈ entries, IsExact e.2) :
    IsExact (.object entries)

variable {v w : Json}

theorem eq_of_compareItems {vs ws : List Json}
    (ih : ∀ v ∈ vs, ∀ w ∈ ws, v.toValue.compare w.toValue = .eq → v = w)
    (h : Value.compareItems (toValues vs) (toValues ws) = .eq) : vs = ws := by
  induction vs generalizing ws with
  | nil =>
    cases ws with
    | nil => rfl
    | cons w ws => cases h
  | cons v vs ihs =>
    cases ws with
    | nil => cases h
    | cons w ws =>
      obtain ⟨hv, hvs⟩ := Ordering.then_eq_eq.mp h
      have he := ih v List.mem_cons_self w List.mem_cons_self hv
      have hes := ihs (fun x hx y hy =>
        ih x (List.mem_cons_of_mem _ hx) y (List.mem_cons_of_mem _ hy)) hvs
      rw [he, hes]

theorem eq_of_compareEntries {es fs : List (String × Json)}
    (ih : ∀ e ∈ es, ∀ f ∈ fs, e.2.toValue.compare f.2.toValue = .eq → e.2 = f.2)
    (h : Value.compareEntries (toEntries es) (toEntries fs) = .eq) : es = fs := by
  induction es generalizing fs with
  | nil =>
    cases fs with
    | nil => rfl
    | cons f fs => cases h
  | cons e es ihs =>
    cases fs with
    | nil => cases h
    | cons f fs =>
      obtain ⟨key, v⟩ := e
      obtain ⟨key', w⟩ := f
      obtain ⟨he, hes⟩ := Ordering.then_eq_eq.mp h
      obtain ⟨hk, hv⟩ := Ordering.then_eq_eq.mp he
      have hv := ih (key, v) List.mem_cons_self (key', w) List.mem_cons_self hv
      have hvs := ihs (fun x hx y hy =>
        ih x (List.mem_cons_of_mem _ hx) y (List.mem_cons_of_mem _ hy)) hes
      exact congrArg₂ List.cons (Prod.ext (Std.compare_eq_iff_eq.mp hk) hv) hvs

theorem eq_of_compare (hv : v.IsExact) (hw : w.IsExact)
    (h : v.toValue.compare w.toValue = .eq) : v = w := by
  induction hv generalizing w with
  | null => cases hw <;> first | rfl | cases h
  | bool a =>
    cases hw with
    | bool b => rw [Std.compare_eq_iff_eq.mp h]
    | _ => cases h
  | @number m hm =>
    cases hw with
    | @number n hn => rw [Binary64.eq_of_compare_ofInt hm hn h]
    | _ => cases h
  | string s =>
    cases hw with
    | string t => rw [Std.compare_eq_iff_eq.mp h]
    | _ => cases h
  | array _ ih =>
    cases hw with
    | array hws => rw [eq_of_compareItems (fun v hv w hw => ih v hv (hws w hw)) h]
    | _ => cases h
  | object _ ih =>
    cases hw with
    | object hfs => rw [eq_of_compareEntries (fun e he f hf => ih e he (hfs f hf)) h]
    | _ => cases h

end Collate.Json
