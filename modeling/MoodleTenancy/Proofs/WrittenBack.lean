import MoodleTenancy.Child.Component
import MoodleTenancy.Proofs.TenantBody

/-!
# Reading what was written

A declaration that was read is written under its wire names, with all that was left open filled in.
What is written so is read as the same declaration: readers take what they give, the defaults included.

* `Restores`: a reader takes back what it gave; one lemma for each reader.
* `Field.required_restored`, `Field.optional_restored`: the same of a field.
* `read_toJson`: declarations and metadata are read back as they are.
-/

namespace MoodleTenancy.Validation
set_option autoImplicit false

variable {α : Type}

/-- What a reader gives, written down, is read as the same by it. -/
def Restores (r : Reader α) (write : α → Json) : Prop :=
  ∀ j a, r j = .accepted a → r (write a) = .accepted a

/-! ## Single values -/

theorem text_restores : Restores text .str := fun _ _ _ => rfl

theorem nonEmptyText_restores : Restores nonEmptyText .str := fun _ _ h =>
  nonEmptyText_eq_accepted.2 ⟨rfl, (nonEmptyText_eq_accepted.1 h).2⟩

theorem integer_restores : Restores integer .int := fun _ _ _ => rfl

theorem flag_restores : Restores flag .bool := fun _ _ _ => rfl

theorem atLeast_restores (least : Int) : Restores (atLeast least) .int := fun _ _ h =>
  atLeast_eq_accepted.2 ⟨rfl, (atLeast_eq_accepted.1 h).2⟩

theorem between_restores (least greatest : Int) : Restores (between least greatest) .int := by
  intro j n h
  obtain ⟨hleast, hgreatest⟩ := between_eq_accepted.1 h
  exact between_eq_accepted.2 ⟨atLeast_restores least j n hleast, hgreatest⟩

theorem toString_int_ne_empty (n : Int) : toString n ≠ "" := by
  cases n with
  | ofNat n => exact Nat.repr_ne_empty
  | negSucc n =>
    have hsign : toString (Int.negSucc n) = "-" ++ (n + 1).repr := rfl
    simp [hsign]

/-- A size is text once it is read, whatever it was before, and not empty. -/
theorem size_restores : Restores size .str := by
  intro j s h
  unfold size at h
  split at h
  · obtain rfl := Checked.accepted.inj h
    exact nonEmptyText_eq_accepted.2 ⟨rfl, toString_int_ne_empty _⟩
  · rename_i b
    -- a truth value is taken as a word, and words are text
    obtain rfl := Checked.accepted.inj h
    cases b <;> rfl
  · exact nonEmptyText_restores j s h

theorem quantity_toJson (q : Quantity) : quantity q.toJson = .accepted q := by
  cases q <;> rfl

/-! ## Values made of others -/

theorem nullable_restores {r : Reader α} {write : α → Json} (hr : Restores r write)
    (hwrite : ∀ a, write a ≠ .null) :
    Restores (nullable r) fun a => Json.ofOption (a.map write) := by
  intro j a h
  cases a with
  | none => rfl
  | some a =>
    have hj : j ≠ .null := by
      rintro rfl
      cases h
    rw [nullable_of_ne_null hj] at h
    obtain ⟨b, hb, hba⟩ := Checked.map_eq_accepted.1 h
    obtain rfl := Option.some.inj hba
    have hwritten : nullable r (write b) = (r (write b)).map some :=
      nullable_of_ne_null (hwrite b)
    exact hwritten.trans (Checked.map_eq_accepted.2 ⟨b, hr j b hb, rfl⟩)

theorem texts_restores : Restores (listOf text) .strings := fun _ _ _ =>
  listOf_text_eq_accepted.2 rfl

theorem entries_toJson (es : List (String × Quantity)) :
    entries quantity (es.map fun e => (.text e.1, e.2.toJson)) = .accepted es := by
  induction es with
  | nil => rfl
  | cons e rest ih =>
    rw [List.map_cons, entries, quantity_toJson, ih]
    rfl

theorem quantities_restores :
    Restores (mapOf quantity) fun es => .obj (es.map fun e => (e.1, e.2.toJson)) :=
  fun _ es _ => entries_toJson es

/-! ## Fields -/

section Restored

variable {f : Field} {r : Reader α} {write : α → Json} {a : α} {fields written : Fields}

theorem Field.required_restored (hr : Restores r write)
    (h : f.required r fields = .accepted a) (hw : f.value? written = some (write a)) :
    f.required r written = .accepted a := by
  obtain ⟨v, -, hv⟩ := required_eq_accepted.1 h
  exact required_eq_accepted.2 ⟨_, hw, hr v a hv⟩

/-- A field that was left open is there once it is written, so its default has to be one of the
values that its reader takes. -/
theorem Field.optional_restored {default : α} (hr : Restores r write)
    (hdefault : r (write default) = .accepted default)
    (h : f.optional default r fields = .accepted a) (hw : f.value? written = some (write a)) :
    f.optional default r written = .accepted a := by
  refine optional_eq_accepted.2 (.inr ⟨_, hw, ?_⟩)
  obtain ⟨-, rfl⟩ | ⟨v, -, hv⟩ := optional_eq_accepted.1 h
  · exact hdefault
  · exact hr v a hv

end Restored

open MoodleTenancy.Validation.Field

/-! ## Parts -/

theorem metadata_restores : Restores metadata Metadata.toJson := by
  intro j m h
  obtain ⟨o, rfl, h⟩ := model_eq_accepted.1 h
  obtain ⟨hn, hu, hr, hg, hf, hd⟩ := metadataFields_eq_accepted.1 h
  have htext := nullable_restores text_restores (by simp)
  refine model_eq_accepted.2 ⟨_, rfl, metadataFields_eq_accepted.2 ⟨?_, ?_, ?_, ?_, ?_, ?_⟩⟩
  · exact required_restored nonEmptyText_restores hn rfl
  · exact optional_restored htext rfl hu rfl
  · exact optional_restored htext rfl hr rfl
  · exact optional_restored (nullable_restores integer_restores (by simp)) rfl hg rfl
  · exact optional_restored texts_restores rfl hf rfl
  · exact optional_restored htext rfl hd rfl

theorem resources_restores : Restores resources Resources.toJson := by
  intro j x h
  obtain ⟨o, rfl, hr, hl⟩ := resources_eq_accepted.1 h
  exact resources_eq_accepted.2 ⟨_, rfl, optional_restored quantities_restores rfl hr rfl,
    optional_restored quantities_restores rfl hl rfl⟩

theorem autoscaling_restores : Restores autoscaling Autoscaling.toJson := by
  intro j x h
  obtain ⟨o, rfl, hfields, hroom⟩ := autoscaling_eq_accepted.1 h
  obtain ⟨he, hmin, hmax, hcpu⟩ := autoscalingFields_eq_accepted.1 hfields
  refine autoscaling_eq_accepted.2
    ⟨_, rfl, autoscalingFields_eq_accepted.2 ⟨?_, ?_, ?_, ?_⟩, hroom⟩
  · exact optional_restored flag_restores rfl he rfl
  · exact optional_restored (nullable_restores (atLeast_restores 1) (by simp)) rfl hmin rfl
  · exact optional_restored (atLeast_restores 1) rfl hmax rfl
  · exact optional_restored (nullable_restores (between_restores 1 100) (by simp)) rfl hcpu rfl

theorem storage_restores : Restores storage Storage.toJson := by
  intro j x h
  obtain ⟨o, rfl, hs, hc⟩ := storage_eq_accepted.1 h
  exact storage_eq_accepted.2 ⟨_, rfl, required_restored size_restores hs rfl,
    optional_restored text_restores rfl hc rfl⟩

theorem database_restores : Restores database Database.toJson := by
  intro j x h
  obtain ⟨o, rfl, hh, hs, hn, hu, hp⟩ := database_eq_accepted.1 h
  refine database_eq_accepted.2 ⟨_, rfl, ?_, ?_, ?_, ?_, ?_⟩
  · exact required_restored nonEmptyText_restores hh rfl
  · exact required_restored nonEmptyText_restores hs rfl
  · exact required_restored nonEmptyText_restores hn rfl
  · exact required_restored nonEmptyText_restores hu rfl
  · exact required_restored nonEmptyText_restores hp rfl

theorem php_restores : Restores php Php.toJson := by
  intro j x h
  obtain ⟨o, rfl, ht, hm⟩ := php_eq_accepted.1 h
  exact php_eq_accepted.2 ⟨_, rfl, optional_restored (atLeast_restores 0) rfl ht rfl,
    optional_restored text_restores rfl hm rfl⟩

theorem memcached_restores : Restores memcached Memcached.toJson := by
  intro j x h
  obtain ⟨o, rfl, hm⟩ := memcached_eq_accepted.1 h
  exact memcached_eq_accepted.2 ⟨_, rfl, optional_restored (atLeast_restores 0) rfl hm rfl⟩

theorem spec_restores : Restores spec Spec.toJson := by
  intro j x h
  obtain ⟨o, rfl, h⟩ := model_eq_accepted.1 h
  obtain ⟨hh, hi, hr, ha, hs, hd, hp, hm⟩ := specFields_eq_accepted.1 h
  refine model_eq_accepted.2
    ⟨_, rfl, specFields_eq_accepted.2 ⟨?_, ?_, ?_, ?_, ?_, ?_, ?_, ?_⟩⟩
  · exact required_restored nonEmptyText_restores hh rfl
  · exact required_restored nonEmptyText_restores hi rfl
  · exact optional_restored resources_restores rfl hr rfl
  · exact optional_restored autoscaling_restores rfl ha rfl
  · exact required_restored storage_restores hs rfl
  · exact required_restored database_restores hd rfl
  · exact optional_restored php_restores rfl hp rfl
  · exact optional_restored memcached_restores rfl hm rfl

theorem declaration_restores : Restores declaration Declaration.toJson := by
  intro j t h
  obtain ⟨o, rfl, h⟩ := model_eq_accepted.1 h
  obtain ⟨ha, hk, hm, hs⟩ := declarationFields_eq_accepted.1 h
  refine model_eq_accepted.2 ⟨_, rfl, declarationFields_eq_accepted.2 ⟨?_, ?_, ?_, ?_⟩⟩
  · exact optional_restored text_restores rfl ha rfl
  · exact optional_restored text_restores rfl hk rfl
  · exact required_restored metadata_restores hm rfl
  · exact required_restored spec_restores hs rfl

/-- A declaration and its metadata are read back as they are, so that the objects of the tenant are
the same as well. -/
theorem read_toJson :
    (∀ j t, Declaration.read j = .ok t → ∃ back, Declaration.read t.toJson = .ok back ∧ back = t ∧
      ∀ s ns, Component.all.map (Component.build s back ns) =
        Component.all.map (Component.build s t ns)) ∧
    ∀ j m, Metadata.read j = .ok m → Metadata.read m.toJson = .ok m := by
  refine ⟨fun j t h => ?_, fun j m h => ?_⟩
  · have hback : Declaration.read t.toJson = .ok t :=
      Checked.report_eq_ok.2 (declaration_restores j t (Checked.report_eq_ok.1 h))
    exact ⟨t, hback, rfl, fun s ns => rfl⟩
  · exact Checked.report_eq_ok.2 (metadata_restores j m (Checked.report_eq_ok.1 h))

theorem lenientTenant_toJson :
    (∃ t, Declaration.read lenientTenant = .ok t ∧ Declaration.read t.toJson = .ok t) ∧
    ∃ m, Metadata.read (.obj [("name", .str "a"), ("generation", .str "+7")]) = .ok m ∧
      m.generation = some 7 ∧ Metadata.read m.toJson = .ok m := by
  obtain ⟨back, hback, hsame, -⟩ := read_toJson.1 lenientTenant _ rfl
  refine ⟨⟨_, rfl, hsame ▸ hback⟩, ⟨"a", none, none, some 7, [], none⟩, rfl, rfl, ?_⟩
  exact read_toJson.2 (.obj [("name", .str "a"), ("generation", .str "+7")]) _ rfl

end MoodleTenancy.Validation
