import TypedRoutes.Config.Schema
import TypedRoutes.Proofs.Attempt
import TypedRoutes.Proofs.Named
import TypedRoutes.Proofs.Value.Entries

/-!
# Reading sections

A section is read key by key and then field by field, so that what is given for one field makes no
difference to the others, and the first field that is refused is what reading ends with.
-/
namespace TypedRoutes
namespace Schema

variable {schema : Schema} {entries others : Entries} {field : Field} {values : Named Value}
variable {value : Value} {failure : Failure} {name : String}

/-- The fields of a schema by their names. -/
def table (schema : Schema) : Named Field :=
  schema.fields.map fun field => (field.name, field)

/-- What a field comes to in a section. -/
def fieldValue (entries : Entries) (field : Field) : Except Failure Value :=
  readField field (entries.get? field.name)

theorem read_mapping (schema : Schema) (entries : Entries) :
    schema.read (.mapping entries) =
      entries.keys.forM schema.checkKey >>= fun _ =>
        schema.fields.mapM fun field => (fieldValue entries field).map fun value =>
          (field.name, value) :=
  rfl

/-- Sections with the same keys in which all fields come to the same are read the same. -/
theorem read_congr (hkeys : entries.keys = others.keys)
    (h : ∀ field ∈ schema.fields, fieldValue entries field = fieldValue others field) :
    schema.read (.mapping entries) = schema.read (.mapping others) := by
  rw [read_mapping, read_mapping, hkeys]
  refine congrArg _ (funext fun _ => mapM_congr fun field hfield => ?_)
  rw [h field hfield]

theorem exists_of_read_eq_ok (h : schema.read (.mapping entries) = .ok values) :
    entries.keys.forM schema.checkKey = .ok () ∧
      schema.fields.mapM (fun field => (fieldValue entries field).map fun value =>
        (field.name, value)) = .ok values := by
  rw [read_mapping] at h
  cases hkeys : entries.keys.forM schema.checkKey with
  | error failure =>
    rw [hkeys] at h
    cases h
  | ok =>
    rw [hkeys] at h
    exact ⟨rfl, h⟩

/-- Every field of a section that is read comes to its value. -/
theorem align_of_read (h : schema.read (.mapping entries) = .ok values) :
    Named.Align (fun _ field value => fieldValue entries field = .ok value) values
      schema.table := by
  have hvalues := mapM_eq_ok_iff.mp (exists_of_read_eq_ok h).2
  unfold Named.Align table
  rw [List.forall₂_map_right_iff]
  refine hvalues.flip.imp fun entry field hentry => ?_
  obtain ⟨value, hvalue, rfl⟩ := Except.map_eq_ok_iff.mp hentry
  exact ⟨rfl, hvalue⟩

/-- If a section is read but for one field that is refused, that is what reading ends with. -/
theorem read_of_refused (hnames : (Named.names schema.table).Nodup)
    (hkeys : entries.keys = others.keys) (hothers : schema.read (.mapping others) = .ok values)
    (hsame : ∀ name ≠ field.name, entries.get? name = others.get? name)
    (hfield : field ∈ schema.fields) (hrefused : fieldValue entries field = .error failure) :
    schema.read (.mapping entries) = .error failure := by
  obtain ⟨hforM, hmapM⟩ := exists_of_read_eq_ok hothers
  rw [read_mapping, hkeys, hforM]
  change schema.fields.mapM _ = _
  obtain ⟨before, after, hfields⟩ := List.append_of_mem hfield
  refine mapM_eq_error_iff.mpr ⟨before, field, after, hfields, ?_, by rw [hrefused]; rfl⟩
  intro other hother
  have hne : other.name ≠ field.name := by
    simp only [Named.names, table, List.map_map, hfields, List.map_append, List.map_cons,
      List.nodup_append] at hnames
    exact hnames.2.2 _ (List.mem_map_of_mem hother) _ List.mem_cons_self
  have hmem : other ∈ schema.fields := by
    rw [hfields]
    exact List.mem_append_left _ hother
  obtain ⟨entry, hentry⟩ := exists_of_mapM_eq_ok hmapM hmem
  exact ⟨entry, by rw [fieldValue, hsame _ hne]; exact hentry⟩

end Schema
end TypedRoutes
