import DispatchCore.Packs.Catalog

/-! The packs the program comes with: what an organization starts from. -/
namespace DispatchCore.Packs

open DispatchCore.Library DispatchCore.Domain

structure IndustryPack where
  packId : String
  title : String
  workTypes : List String
  branding : Branding
  serviceCatalog : ServiceCatalog
  fields : List FieldDefinition
  completionEvidence : EvidenceRequirements
  described : packId ≠ "" ∧ title ≠ "" ∧ workTypes ≠ []
  distinct : (fields.map fun field => field.key).Nodup

def IndustryPack.toDefinition (pack : IndustryPack) : PackDefinition where
  branding := pack.branding
  serviceCatalog := pack.serviceCatalog
  fields := pack.fields
  evidence := pack.completionEvidence
  roleLabels := defaultRoleLabels
  defaultPoolMode := .curated

def fieldService : IndustryPack where
  packId := "field_service"
  title := "Выездной сервис"
  workTypes := ["repair", "maintenance", "installation", "inspection"]
  branding :=
    ⟨"Выездной сервис", "Здравствуйте! Выберите услугу, и мы примем вашу заявку.", ""⟩
  serviceCatalog := ⟨[
    ⟨"repair", "Ремонт", by decide⟩,
    ⟨"maintenance", "Обслуживание", by decide⟩,
    ⟨"installation", "Установка", by decide⟩,
    ⟨"inspection", "Диагностика", by decide⟩], true, by decide⟩
  fields := [
    ⟨"address", "Адрес", .address, true, [], "Введите адрес объекта", 1, by decide, by decide⟩,
    ⟨"asset", "Оборудование", .assetReference, false, [],
      "Укажите оборудование (или пропустите)", 2, by decide, by decide⟩,
    ⟨"fault", "Неисправность или задача", .text, true, [],
      "Опишите неисправность или задачу", 3, by decide, by decide⟩]
  completionEvidence := ⟨1, true, false, false, by decide⟩
  described := by decide
  distinct := by decide

def localDelivery : IndustryPack where
  packId := "local_delivery"
  title := "Локальная доставка"
  workTypes := ["pickup", "delivery", "pickup_and_delivery", "return"]
  branding := ⟨"Локальная доставка", "Здравствуйте! Выберите тип доставки.", ""⟩
  serviceCatalog := ⟨[
    ⟨"pickup", "Приёмка", by decide⟩,
    ⟨"delivery", "Доставка", by decide⟩,
    ⟨"pickup_and_delivery", "Приёмка и доставка", by decide⟩,
    ⟨"return", "Возврат", by decide⟩], true, by decide⟩
  fields := [
    ⟨"origin", "Откуда", .address, true, [], "Введите адрес отправления", 1, by decide,
      by decide⟩,
    ⟨"destination", "Куда", .address, true, [], "Введите адрес назначения", 2, by decide,
      by decide⟩,
    ⟨"cargo", "Груз", .text, true, [], "Опишите груз", 3, by decide, by decide⟩,
    ⟨"recipient", "Получатель", .text, false, [], "Укажите получателя (или пропустите)", 4,
      by decide, by decide⟩]
  completionEvidence := ⟨0, false, false, true, by decide⟩
  described := by decide
  distinct := by decide

def guidedRoute : IndustryPack where
  packId := "guided_route"
  title := "Туристический или групповой маршрут"
  workTypes := ["excursion", "transfer", "guided_route", "equipment_handoff"]
  branding := ⟨"Групповой маршрут", "Здравствуйте! Выберите формат маршрута.", ""⟩
  serviceCatalog := ⟨[
    ⟨"excursion", "Экскурсия", by decide⟩,
    ⟨"transfer", "Трансфер", by decide⟩,
    ⟨"guided_route", "Сопровождение", by decide⟩,
    ⟨"equipment_handoff", "Выдача снаряжения", by decide⟩], true, by decide⟩
  fields := [
    ⟨"departure", "Точка отправления", .address, true, [], "Введите точку отправления", 1,
      by decide, by decide⟩,
    ⟨"route", "Маршрут", .route, true, [], "Опишите маршрут", 2, by decide, by decide⟩,
    ⟨"group_size", "Размер группы", .integer, true, [], "Укажите размер группы", 3, by decide,
      by decide⟩,
    ⟨"equipment", "Снаряжение", .text, false, [], "Укажите снаряжение (или пропустите)", 4,
      by decide, by decide⟩]
  completionEvidence := ⟨0, true, false, false, by decide⟩
  described := by decide
  distinct := by decide

def municipalWork : IndustryPack where
  packId := "municipal_work"
  title := "Муниципальное или коммунальное поручение"
  workTypes := ["incident", "repair", "inspection", "scheduled_round"]
  branding := ⟨"Коммунальная служба", "Здравствуйте! Выберите тип обращения.", ""⟩
  serviceCatalog := ⟨[
    ⟨"incident", "Инцидент", by decide⟩,
    ⟨"repair", "Ремонт", by decide⟩,
    ⟨"inspection", "Осмотр", by decide⟩,
    ⟨"scheduled_round", "Плановый обход", by decide⟩], true, by decide⟩
  fields := [
    ⟨"zone", "Район или зона", .text, true, [], "Укажите район или зону", 1, by decide,
      by decide⟩,
    ⟨"asset", "Объект инфраструктуры", .assetReference, false, [],
      "Укажите объект (или пропустите)", 2, by decide, by decide⟩,
    ⟨"priority", "Приоритет", .enum, true, ["routine", "urgent", "emergency"],
      "Выберите приоритет: routine / urgent / emergency", 3, by decide, by decide⟩,
    ⟨"request", "Сообщение или дефект", .text, false, [],
      "Опишите сообщение или дефект (или пропустите)", 4, by decide, by decide⟩]
  completionEvidence := ⟨1, true, false, false, by decide⟩
  described := by decide
  distinct := by decide

def industryPacks : List IndustryPack := [fieldService, localDelivery, guidedRoute, municipalWork]

def industryPackIndex : Dict String IndustryPack :=
  .ofList (industryPacks.map fun pack => (pack.packId, pack))

def seedDefinition (packId : String) : Except Failure PackDefinition :=
  match industryPackIndex.get? packId with
  | none =>
      let available := Text.join ", " industryPackIndex.keys
      .error (.valueError s!"unknown pack_id {Text.repr packId}; available: {available}")
  | some pack => .ok pack.toDefinition

/-- A seed is the definition of a pack the program comes with. -/
theorem seedDefinition_ok {packId : String} {seed : PackDefinition} :
    seedDefinition packId = .ok seed ↔
      ∃ pack ∈ industryPacks, pack.packId = packId ∧ pack.toDefinition = seed := by
  have hindex : ∀ pack, industryPackIndex.get? packId = some pack ↔
      pack ∈ industryPacks ∧ pack.packId = packId := by
    intro pack
    constructor
    · intro hfound
      rcases Dict.get?_update_cases hfound with hmem | hnone
      · obtain ⟨other, hother, hpair⟩ := List.mem_map.mp hmem
        cases hpair
        exact ⟨hother, rfl⟩
      · rw [Dict.get?_empty] at hnone
        contradiction
    · rintro ⟨hmem, rfl⟩
      apply Dict.get?_update_of_mem
      · decide
      · exact List.mem_map.mpr ⟨pack, hmem, rfl⟩
  unfold seedDefinition
  cases hpack : industryPackIndex.get? packId with
  | none =>
      constructor
      · intro h
        cases h
      · rintro ⟨pack, hmem, hid, -⟩
        rw [(hindex pack).mpr ⟨hmem, hid⟩] at hpack
        contradiction
  | some pack =>
      obtain ⟨hmem, hid⟩ := (hindex pack).mp hpack
      constructor
      · intro h
        cases h
        exact ⟨pack, hmem, hid, rfl⟩
      · rintro ⟨other, hother, hotherId, rfl⟩
        rw [(hindex other).mpr ⟨hother, hotherId⟩] at hpack
        cases hpack
        rfl

end DispatchCore.Packs
