import MoodleTenancy.Schema.Basic
import MoodleTenancy.Json.Facet

/-!
# What objects of models have besides members

A path of an edit may lead past the members of a model, to its operations or to the tables in which
the model describes itself. The tables belong to the model: what happens to them is not seen in
any object.

* `Model.nature?`: what an object of a model has under a name.
* `Model.attributes`: what a model itself has under names.
* `Model.tables`, `Model.views`: the names that no object can set.
-/

namespace MoodleTenancy
set_option autoImplicit false

namespace Model

/-! ## Names -/

/-- The name under which a model lists its members. -/
def memberList (model : String) : String := "_" ++ model ++ "__properties"

/-- Tables of a model that it shares with its objects under no other name. -/
def tables (model : String) : List String :=
  ["attribute_map", "openapi_types", memberList model]

/-- What objects of models work out about their members. -/
def views : List String :=
  ["__fields__", "__fields_set__", "model_extra", "model_fields_set"]

/-- Operations of objects. -/
def operations : List String :=
  words (
    "copy dict json model_copy model_dump model_dump_json model_post_init to_dict to_json " ++
    "to_str _calculate_keys _copy_and_set_values _iter _setattr_handler __copy__ " ++
    "__deepcopy__ __delattr__ __eq__ __getattr__ __getstate__ __init__ __iter__ __ne__ " ++
    "__pretty__ __replace__ __repr__ __repr_args__ __repr_name__ __repr_recursion__ " ++
    "__repr_str__ __rich_repr__ __setattr__ __setstate__ __str__")

/-- Operations of models. -/
def modelOperations : List String :=
  words (
    "construct from_dict from_json from_orm model_construct model_json_schema " ++
    "model_parametrized_name model_rebuild model_validate model_validate_json " ++
    "model_validate_strings parse_file parse_obj parse_raw schema schema_json " ++
    "update_forward_refs validate _get_value __class_getitem__ " ++
    "__get_pydantic_core_schema__ __get_pydantic_json_schema__ __pydantic_init_subclass__")

/-- What objects of models could work out and do not. -/
def absentViews : List String :=
  ["model_extra", "__hash__", "__pydantic_extra__", "__pydantic_private__", "__weakref__"]

/-- Sets of names. -/
def memberSets : List String := ["model_fields_set", "__fields_set__", "__pydantic_fields_set__"]

/-- How models are to be read. -/
def readingRules : List (Key × Nature) :=
  [("populate_by_name", .of "bool"), ("validate_assignment", .of "bool"),
    ("protected_namespaces", .of "tuple"), ("extra", .of "str")]

/-! ## Natures -/

/-- Tables that models could fill and do not. -/
def emptyTables : List String :=
  ["model_computed_fields", "__pydantic_computed_fields__", "__private_attributes__"]

/-- The tables of a model. -/
def table? (model : String) (members : List Member) (called : String) : Option Nature :=
  let everyMember := fun kind =>
    Nature.table (members.map fun m => (Key.text (attributeOf m.1), .of kind))
  if ["openapi_types", "attribute_map"].contains called then some (everyMember "str")
  else if called = memberList model then some (.sequence (members.map fun _ => .of "str"))
  else if called = "model_config" then some (.table readingRules)
  else if ["model_fields", "__pydantic_fields__", "__fields__"].contains called then
    some (everyMember "FieldInfo")
  else if called = "__annotations__" then some (everyMember "_UnionGenericAlias")
  else if emptyTables.contains called then some (.table [])
  else none

/-- The names of all tables of a model. -/
def tableNames (model : String) : List String :=
  tables model ++ emptyTables ++
    words "model_config model_fields __pydantic_fields__ __fields__ __annotations__"

/-- Names that a model has from the kind of models, and other ones that models are made with. -/
def ownNames : List (String × Nature) :=
  ofKind "str" "__name__ __qualname__ __module__ __doc__" ++
    ofKind "tuple" "__bases__ __mro__ __slots__" ++ ofKind "mappingproxy" "__dict__" ++
    ofKind "int" "__basicsize__ __dictoffset__ __flags__ __itemsize__ __weakrefoffset__" ++
    ofKind "NoneType" "__hash__ __text_signature__" ++
    ofKind "bool" "__pydantic_complete__ __pydantic_custom_init__ __pydantic_root_model__" ++
    ofKind "set" "__class_vars__" ++ ofKind "getset_descriptor" "__weakref__" ++
    ofKind "property" "model_extra model_fields_set __fields_set__" ++
    named (.itself Nature.modelKind) kindField

/-- Operations of a model that it has from what all values have in common. -/
def givenOperations : List (String × Nature) :=
  ((features "object").operations.map fun called =>
      (called, Nature.declared "method_descriptor" called "object")) ++
    (features "object").operators.map fun called =>
      (called, .declared "wrapper_descriptor" called "object")

/-- What a model itself has under names. -/
def attributes (model : String) (members : List Member) : List (String × Nature) :=
  ownNames ++
    (tableNames model).filterMap (fun called => (table? model members called).map (called, ·)) ++
    operations.map (fun called => (called, .of "function")) ++
    modelOperations.map (fun called => (called, .method (.itself Nature.modelKind))) ++
    givenOperations

/-- What an object of a model has under a name that is none of its members. -/
def nature? (model : String) (members : List Member) (called : String) : Option Nature :=
  if memberSets.contains called then some (.of "set")
  else if absentViews.contains called then some .nothing
  else if called = kindField then some (.model (attributes model members))
  else if ["__module__", "__doc__"].contains called then some (.of "str")
  else if called = "__slots__" then some (.of "tuple")
  else if called = "__class_vars__" then some (.of "set")
  else if operations.contains called then some (.method (.whole model))
  else if modelOperations.contains called then some (.method (.itself Nature.modelKind))
  else
    (table? model members called).or (((Nature.whole model).facet? called).map Facet.is)

end Model
end MoodleTenancy
