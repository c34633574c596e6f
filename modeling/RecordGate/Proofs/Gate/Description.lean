import RecordGate.Gate.Basic
import RecordGate.Proofs.Name.Recovered
import RecordGate.Proofs.Query.Compile

/-!
# `RecordGate.Proofs.Gate.Description` — models described by the name of their class

A model is described by the name of a table, or by the name of its class. Both lead to the same description if the
class is its own entity, and it is not always: `a_b` names the entity `AB`, in which no two words are seen any more, and
`datas` the entity `Data`, which is taken for a plural again. These are the only reasons (`resolvesAlike`).

The second reason can be seen in the name of the table only if the first one does not apply. Where the words of a class
cannot be told apart, its last word is none of the table's.
-/

namespace RecordGate

open Text Name

/-! ## Plans of descriptions -/

/-- A description of a model is planned for the entity that its name resolves to. -/
theorem plan_describeModel {name entity : String} (h : resolve .model (some name) = .ok entity) :
    (Call.describeModel (some name)).plan = .ok ⟨Script.model entity, " " ++ entity⟩ := by
  simp only [Call.plan, h]

/-- The name of a collection resolves as it is, for there is nothing to trim. -/
theorem resolve_of_isCollection {subject : Subject} {name : String} (h : isCollection name.toList = true) :
    resolve subject (some name) = .ok (entityName name) := by
  have htrim : trim name.toList = name.toList := trim_of_isNamePart (isNamePart_of_isCollection h)
  refine resolve_eq_ok_iff.mpr ⟨name, rfl, by rw [htrim]; exact h, ?_⟩
  rw [trimmed, htrim, String.ofList_toList]

/-- Descriptions of different models are different. -/
theorem script_model_inj {a b : String} : Script.model a = Script.model b ↔ a = b := by
  simp only [Script.model, String.append_left_inj, String.append_right_inj]

/-! ## Names of classes -/

/-- **The name of a class and that of its table resolve alike**, under conditions that are not only enough. -/
structure ResolvesAlike (name : String) : Prop where
  /-- The class is its own entity when its words can be told apart and the last one is its own singular. -/
  entity : entityName (entityName name) = entityName name ↔ isLegible (entityName name).toList = true ∧
    singular (lastWord (entityName name).toList) = lastWord (entityName name).toList
  /-- The last word of the table's name, taken alone, has a singular that is its own, unless it is a double plural. -/
  word : ¬ "oxen".toList <+: lastWord name.toList →
    (singular (singular (lastWord name.toList)) = singular (lastWord name.toList) ↔
      ¬ IsDoublePlural (lastWord name.toList))
  /-- This singular is the last word of the class if the words of the class can be told apart. -/
  last : (lastWord name.toList).head?.any isLower = true → isLegible (entityName name).toList = true →
    lastWord (entityName name).toList = singular (lastWord name.toList)
  /-- So if they can, the last word of the class is its own singular unless that of the table is a double plural. -/
  given : (lastWord name.toList).head?.any isLower = true → ¬ "oxen".toList <+: lastWord name.toList →
    isLegible (entityName name).toList = true →
      (singular (lastWord (entityName name).toList) = lastWord (entityName name).toList ↔
        ¬ IsDoublePlural (lastWord name.toList))
  /-- The class is its own entity when its words can be told apart and the table is not named by a double plural, if the
      last word of the table's name starts with a letter, and not with `oxen`. -/
  plural : (lastWord name.toList).head?.any isLower = true → ¬ "oxen".toList <+: lastWord name.toList →
    (entityName (entityName name) = entityName name ↔
      isLegible (entityName name).toList = true ∧ ¬ IsDoublePlural (lastWord name.toList))
  /-- The model can be described by either name, and the same script is built when the class is its own entity. -/
  described : ∃ plan plan', (Call.describeModel (some name)).plan = .ok plan ∧
    (Call.describeModel (some (entityName name))).plan = .ok plan' ∧
    (plan'.script = plan.script ↔ entityName (entityName name) = entityName name)

/-- Entities of texts are entities of their characters. -/
theorem entityName_entityName_iff {name : String} :
    entityName (entityName name) = entityName name ↔ entity (entity name.toList) = entity name.toList := by
  unfold entityName
  rw [String.toList_ofList, String.ofList_inj]

/-- **The names of a class and of its table resolve alike** exactly under these conditions, for every collection. -/
theorem resolvesAlike {name : String} (h : isCollectionName name = true) : ResolvesAlike name where
  entity := by
    rw [entityName_entityName_iff, entityName, String.toList_ofList]
    exact entity_eq_self_iff (isConstant_entity h)
  word := singular_singular_iff (isWordPart_of_mem_lastWord h)
  last := by
    intro hletter hlegible
    rw [entityName, String.toList_ofList] at hlegible ⊢
    exact lastWord_entity h hletter hlegible
  given := by
    intro hletter hoxen hlegible
    rw [entityName, String.toList_ofList] at hlegible ⊢
    exact singular_lastWord_entity_iff h hletter hoxen hlegible
  plural := by
    intro hletter hoxen
    rw [entityName_entityName_iff, entityName, String.toList_ofList]
    exact entity_entity_iff h hletter hoxen
  described := by
    have hclass : isCollection (entityName name).toList = true := by
      rw [entityName, String.toList_ofList]
      exact isCollection_of_isConstant (isConstant_entity h)
    exact ⟨_, _, plan_describeModel (resolve_of_isCollection h), plan_describeModel (resolve_of_isCollection hclass),
      script_model_inj⟩

theorem resolvesAlike_categories :
    isCollectionName "line_item_categories" = true ∧ ResolvesAlike "line_item_categories" :=
  ⟨by decide, resolvesAlike (by decide)⟩

/-- Of `AS` no last word can be told. It is read as the word `as`, which has another singular, although the last word of
    `a_s` is no double plural. -/
example : isLegible (entityName "a_s").toList = false ∧ lastWord (entityName "a_s").toList = "as".toList ∧
    singular "as".toList = "a".toList ∧ ¬ IsDoublePlural (lastWord "a_s".toList) := by
  decide

/-- Words of one letter are lost in the name of a class, and a double plural becomes another plural first. -/
theorem entityName_not_idempotent :
    (isCollectionName "a_b" = true ∧ entityName "a_b" = "AB" ∧ entityName (entityName "a_b") ≠ entityName "a_b") ∧
    (isCollectionName "datas" = true ∧ entityName "datas" = "Data" ∧
      entityName (entityName "datas") ≠ entityName "datas") := by
  decide +kernel

end RecordGate
