import MoodleTenancy.Json.Nature

/-!
# What kinds declare

A kind declares names for its values: operations, operators, what is worked out from a value, what
is kept beside it, and constants. A value has what its own kind declares, then what the parent of
that declares, and last what all values have.

* `Features`: the names that a kind declares, by what becomes of them.
* `features`: the names of each kind. A kind that is not listed declares nothing of its own.
* `lineage`: a kind with those from which it has the rest.
-/

namespace MoodleTenancy
set_option autoImplicit false

/-- What a kind declares for its values. -/
structure Features where
  parent : String := "object"
  /-- Operations of a value. -/
  operations : List String := []
  /-- Operations of the kind, which its values have too. -/
  kindOperations : List String := []
  /-- Operations of a value that are written in models. -/
  methods : List String := []
  /-- Names behind operators. -/
  operators : List String := []
  /-- Worked out from a value. -/
  derived : List (String × Nature) := []
  /-- Kept beside a value, for reading alone. -/
  fixed : List (String × Nature) := []
  /-- Kept beside a value, for reading and writing. -/
  free : List (String × Nature) := []
  /-- Belonging to something that a value holds, for reading alone. -/
  lent : List (String × Nature) := []
  /-- The same for all values. -/
  constants : List (String × Nature) := []
  /-- Of the names above, those that have no signature written down. -/
  unsigned : List String := []
  /-- Of the names above, those that have nothing written down about them. -/
  undocumented : List String := []
  /-- Whether a value takes anything under names that are not declared. -/
  takesAny : Bool := false
  /-- Whether values have positions, even if nothing can be taken out of them. -/
  hasPositions : Bool := false
  /-- Whether the kind has a signature written down. -/
  hasSignature : Bool := false
  /-- Whether anything can be put into the kind. -/
  isOpen : Bool := false

def words (s : String) : List String := s.splitOn " "

/-- Names for values of one nature. -/
def named (n : Nature) (names : String) : List (String × Nature) :=
  (words names).map fun name => (name, n)

/-- Names for values of one kind. -/
def ofKind (kind names : String) : List (String × Nature) := named (.of kind) names

/-- What kinds declare. -/
def features : (kind : String) → Features
  | "object" => {
    operations := words "__dir__ __format__ __getstate__ __reduce__ __reduce_ex__ __sizeof__"
    kindOperations := words "__init_subclass__ __new__ __subclasshook__"
    operators := words (
      "__delattr__ __eq__ __ge__ __getattribute__ __gt__ __hash__ __init__ __le__ __lt__ " ++
      "__ne__ __repr__ __setattr__ __str__")
    constants := ofKind "str" "__doc__"
    unsigned := words "__init_subclass__ __subclasshook__"
    hasSignature := true }
  | "str" => {
    operations := words (
      "__format__ __getnewargs__ __sizeof__ capitalize casefold center count encode " ++
      "endswith expandtabs find format format_map index isalnum isalpha isascii " ++
      "isdecimal isdigit isidentifier islower isnumeric isprintable isspace istitle " ++
      "isupper join ljust lower lstrip partition removeprefix removesuffix replace rfind " ++
      "rindex rjust rpartition rsplit rstrip split splitlines startswith strip swapcase " ++
      "title translate upper zfill")
    kindOperations := words "__new__ maketrans"
    operators := words (
      "__add__ __contains__ __eq__ __ge__ __getattribute__ __getitem__ __gt__ __hash__ " ++
      "__iter__ __le__ __len__ __lt__ __mod__ __mul__ __ne__ __repr__ __rmod__ __rmul__ " ++
      "__str__")
    constants := ofKind "str" "__doc__"
    unsigned := words (
      "__getnewargs__ count endswith find format format_map index rfind rindex " ++
      "startswith")
    undocumented := words "__getnewargs__"
    hasPositions := true }
  | "int" => {
    operations := words (
      "__ceil__ __floor__ __format__ __getnewargs__ __round__ __sizeof__ __trunc__ " ++
      "as_integer_ratio bit_count bit_length conjugate to_bytes")
    kindOperations := words "__new__ from_bytes"
    operators := words (
      "__abs__ __add__ __and__ __bool__ __divmod__ __eq__ __float__ __floordiv__ __ge__ " ++
      "__getattribute__ __gt__ __hash__ __index__ __int__ __invert__ __le__ __lshift__ " ++
      "__lt__ __mod__ __mul__ __ne__ __neg__ __or__ __pos__ __pow__ __radd__ __rand__ " ++
      "__rdivmod__ __repr__ __rfloordiv__ __rlshift__ __rmod__ __rmul__ __ror__ __rpow__ " ++
      "__rrshift__ __rshift__ __rsub__ __rtruediv__ __rxor__ __sub__ __truediv__ __xor__")
    derived := ofKind "int" "denominator imag numerator real"
    constants := ofKind "str" "__doc__"
    unsigned := words "__ceil__ __floor__ __trunc__ conjugate"
    undocumented := words "__format__ __getnewargs__" }
  | "bool" => {
    parent := "int"
    kindOperations := words "__new__"
    operators := words "__and__ __or__ __rand__ __repr__ __ror__ __rxor__ __xor__"
    constants := ofKind "str" "__doc__" }
  | "float" => {
    operations := words (
      "__ceil__ __floor__ __format__ __getnewargs__ __round__ __trunc__ as_integer_ratio " ++
      "conjugate hex is_integer")
    kindOperations := words "__getformat__ __new__ fromhex"
    operators := words (
      "__abs__ __add__ __bool__ __divmod__ __eq__ __float__ __floordiv__ __ge__ " ++
      "__getattribute__ __gt__ __hash__ __int__ __le__ __lt__ __mod__ __mul__ __ne__ " ++
      "__neg__ __pos__ __pow__ __radd__ __rdivmod__ __repr__ __rfloordiv__ __rmod__ " ++
      "__rmul__ __rpow__ __rsub__ __rtruediv__ __sub__ __truediv__")
    derived := ofKind "float" "imag real"
    constants := ofKind "str" "__doc__"
    undocumented := words "__getnewargs__"
    hasSignature := true }
  | "NoneType" => {
    kindOperations := words "__new__"
    operators := words "__bool__ __repr__"
    constants := ofKind "NoneType" "__doc__" }
  | "datetime.date" => {
    operations := words (
      "__format__ __reduce__ ctime isocalendar isoformat isoweekday replace strftime " ++
      "timetuple toordinal weekday")
    kindOperations := words (
      "__new__ fromisocalendar fromisoformat fromordinal fromtimestamp today")
    operators := words (
      "__add__ __eq__ __ge__ __getattribute__ __gt__ __hash__ __le__ __lt__ __ne__ " ++
      "__radd__ __repr__ __rsub__ __str__ __sub__")
    derived := ofKind "int" "day month year"
    constants :=
      ofKind "str" "__doc__" ++
      ofKind "datetime.date" "max min" ++
      ofKind "datetime.timedelta" "resolution"
    unsigned := words (
      "__format__ __reduce__ ctime fromisocalendar fromisoformat fromordinal isocalendar " ++
      "isoformat isoweekday replace strftime timetuple today toordinal weekday")
    undocumented := words "day month year" }
  | "datetime.datetime" => {
    parent := "datetime.date"
    operations := words (
      "__reduce__ __reduce_ex__ astimezone ctime date dst isoformat replace time " ++
      "timestamp timetuple timetz tzname utcoffset utctimetuple")
    kindOperations := words (
      "__new__ combine fromisoformat fromtimestamp now strptime utcfromtimestamp utcnow")
    operators := words (
      "__add__ __eq__ __ge__ __getattribute__ __gt__ __hash__ __le__ __lt__ __ne__ " ++
      "__radd__ __repr__ __rsub__ __str__ __sub__")
    derived :=
      ofKind "int" "fold hour microsecond minute second" ++
      ofKind "pydantic_core._pydantic_core.TzInfo" "tzinfo"
    constants :=
      ofKind "str" "__doc__" ++
      named .naive "max min" ++
      ofKind "datetime.timedelta" "resolution"
    unsigned := words (
      "__reduce__ __reduce_ex__ astimezone combine ctime date dst fromisoformat " ++
      "fromtimestamp isoformat replace strptime time timestamp timetuple timetz tzname " ++
      "utcfromtimestamp utcnow utcoffset utctimetuple")
    undocumented := words "fold hour microsecond minute second tzinfo" }
  | "datetime.timedelta" => {
    operations := words "__reduce__ total_seconds"
    kindOperations := words "__new__"
    operators := words (
      "__abs__ __add__ __bool__ __divmod__ __eq__ __floordiv__ __ge__ __getattribute__ " ++
      "__gt__ __hash__ __le__ __lt__ __mod__ __mul__ __ne__ __neg__ __pos__ __radd__ " ++
      "__rdivmod__ __repr__ __rfloordiv__ __rmod__ __rmul__ __rsub__ __rtruediv__ " ++
      "__str__ __sub__ __truediv__")
    fixed := ofKind "int" "days microseconds seconds"
    constants := ofKind "str" "__doc__" ++ ofKind "datetime.timedelta" "max min resolution"
    unsigned := words "__reduce__ total_seconds" }
  | "datetime.tzinfo" => {
    operations := words "__reduce__ dst fromutc tzname utcoffset"
    kindOperations := words "__new__"
    operators := words "__getattribute__"
    constants := ofKind "str" "__doc__"
    unsigned := words "__reduce__ dst fromutc tzname utcoffset" }
  | "set" => {
    operations := words (
      "__contains__ __reduce__ __sizeof__ add clear copy difference difference_update " ++
      "discard intersection intersection_update isdisjoint issubset issuperset pop " ++
      "remove symmetric_difference symmetric_difference_update union update")
    kindOperations := words "__class_getitem__ __new__"
    operators := words (
      "__and__ __eq__ __ge__ __getattribute__ __gt__ __iand__ __init__ __ior__ __isub__ " ++
      "__iter__ __ixor__ __le__ __len__ __lt__ __ne__ __or__ __rand__ __repr__ __ror__ " ++
      "__rsub__ __rxor__ __sub__ __xor__")
    constants := ofKind "NoneType" "__hash__" ++ ofKind "str" "__doc__"
    unsigned := words (
      "__class_getitem__ __contains__ __reduce__ __sizeof__ add clear copy difference " ++
      "difference_update discard intersection intersection_update isdisjoint pop remove " ++
      "symmetric_difference symmetric_difference_update union update")
    hasPositions := true }
  | "tuple" => {
    operations := words "__getnewargs__ count index"
    kindOperations := words "__class_getitem__ __new__"
    operators := words (
      "__add__ __contains__ __eq__ __ge__ __getattribute__ __getitem__ __gt__ __hash__ " ++
      "__iter__ __le__ __len__ __lt__ __mul__ __ne__ __repr__ __rmul__")
    constants := ofKind "str" "__doc__"
    unsigned := words "__class_getitem__"
    undocumented := words "__getnewargs__"
    hasPositions := true
    hasSignature := true }
  | "mappingproxy" => {
    operations := words "__reversed__ copy get items keys values"
    kindOperations := words "__class_getitem__ __new__"
    operators := words (
      "__contains__ __eq__ __ge__ __getattribute__ __getitem__ __gt__ __ior__ __iter__ " ++
      "__le__ __len__ __lt__ __ne__ __or__ __repr__ __ror__ __str__")
    constants := ofKind "NoneType" "__doc__ __hash__"
    unsigned := words "__class_getitem__ __reversed__ copy get items keys values"
    hasPositions := true }
  | "types.SimpleNamespace" => {
    operations := words "__reduce__"
    kindOperations := words "__new__"
    operators := words (
      "__delattr__ __eq__ __ge__ __getattribute__ __gt__ __init__ __le__ __lt__ __ne__ " ++
      "__repr__ __setattr__")
    constants := ofKind "str" "__doc__" ++ ofKind "NoneType" "__hash__"
    unsigned := words "__reduce__"
    takesAny := true
    fixed := ofKind "dict" "__dict__" }
  | "function" => {
    kindOperations := words "__new__"
    operators := words "__call__ __get__ __repr__"
    takesAny := true
    fixed := ofKind "NoneType" "__closure__" ++ ofKind "dict" "__builtins__ __globals__"
    free :=
      ofKind "str" "__doc__ __module__ __name__ __qualname__" ++
      ofKind "NoneType" "__defaults__ __kwdefaults__" ++
      ofKind "dict" "__annotations__ __dict__" ++
      ofKind "code" "__code__"
    hasSignature := true }
  | "method" => {
    operations := words "__reduce__"
    kindOperations := words "__new__"
    operators := words (
      "__call__ __delattr__ __eq__ __ge__ __getattribute__ __gt__ __hash__ __le__ __lt__ " ++
      "__ne__ __repr__ __setattr__")
    derived := ofKind "str" "__doc__"
    fixed := ofKind "function" "__func__" ++ ofKind "object" "__self__"
    constants := ofKind "str" "__doc__"
    undocumented := words "__doc__ __reduce__"
    hasSignature := true
    lent :=
      ofKind "str" "__module__ __name__ __qualname__" ++
      ofKind "NoneType" "__closure__ __defaults__ __kwdefaults__" ++
      ofKind "dict" "__annotations__ __builtins__ __dict__ __globals__" ++
      ofKind "code" "__code__" }
  | "builtin_function_or_method" => {
    operations := words "__reduce__"
    operators := words (
      "__call__ __eq__ __ge__ __getattribute__ __gt__ __hash__ __le__ __lt__ __ne__ " ++
      "__repr__")
    derived :=
      ofKind "str" "__doc__ __name__ __qualname__ __text_signature__" ++
      ofKind "object" "__self__"
    unsigned := words "__reduce__"
    undocumented := words (
      "__doc__ __name__ __qualname__ __reduce__ __self__ __text_signature__")
    free := ofKind "NoneType" "__module__" }
  | "method-wrapper" => {
    operations := words "__reduce__"
    operators := words (
      "__call__ __eq__ __ge__ __getattribute__ __gt__ __hash__ __le__ __lt__ __ne__ " ++
      "__repr__")
    derived :=
      ofKind "type" "__objclass__" ++
      ofKind "str" "__doc__ __name__ __qualname__ __text_signature__"
    fixed := ofKind "object" "__self__"
    unsigned := words "__reduce__"
    undocumented := words (
      "__doc__ __name__ __objclass__ __qualname__ __reduce__ __self__ __text_signature__") }
  | "getset_descriptor" => {
    operators := words "__delete__ __get__ __getattribute__ __repr__ __set__"
    derived := ofKind "str" "__doc__ __qualname__"
    fixed := ofKind "type" "__objclass__" ++ ofKind "str" "__name__"
    undocumented := words "__doc__ __name__ __objclass__ __qualname__" }
  | "member_descriptor" => {
    operations := words "__reduce__"
    operators := words "__delete__ __get__ __getattribute__ __repr__ __set__"
    derived := ofKind "str" "__doc__ __qualname__"
    fixed := ofKind "type" "__objclass__" ++ ofKind "str" "__name__"
    unsigned := words "__reduce__"
    undocumented := words "__doc__ __name__ __objclass__ __qualname__ __reduce__" }
  | "method_descriptor" => {
    operations := words "__reduce__"
    operators := words "__call__ __get__ __getattribute__ __repr__"
    derived := ofKind "str" "__doc__ __qualname__ __text_signature__"
    fixed := ofKind "type" "__objclass__" ++ ofKind "str" "__name__"
    unsigned := words "__reduce__"
    undocumented := words (
      "__doc__ __name__ __objclass__ __qualname__ __reduce__ __text_signature__") }
  | "wrapper_descriptor" => {
    operations := words "__reduce__"
    operators := words "__call__ __get__ __getattribute__ __repr__"
    derived := ofKind "str" "__doc__ __qualname__ __text_signature__"
    fixed := ofKind "type" "__objclass__" ++ ofKind "str" "__name__"
    unsigned := words "__reduce__"
    undocumented := words (
      "__doc__ __name__ __objclass__ __qualname__ __reduce__ __text_signature__") }
  | "type" => {
    operations := words (
      "__dir__ __instancecheck__ __sizeof__ __subclasscheck__ __subclasses__ mro")
    kindOperations := words "__new__ __prepare__"
    operators := words (
      "__call__ __delattr__ __getattribute__ __init__ __or__ __repr__ __ror__ " ++
      "__setattr__")
    derived :=
      ofKind "str" "__doc__ __module__ __name__ __qualname__ __text_signature__" ++
      ofKind "tuple" "__bases__" ++
      ofKind "mappingproxy" "__dict__"
    fixed :=
      ofKind "int" "__basicsize__ __dictoffset__ __flags__ __itemsize__ __weakrefoffset__" ++
      ofKind "tuple" "__mro__"
    constants := ofKind "str" "__doc__"
    unsigned := words "__prepare__"
    undocumented := words (
      "__bases__ __basicsize__ __dict__ __dictoffset__ __doc__ __flags__ __itemsize__ " ++
      "__module__ __mro__ __name__ __qualname__ __text_signature__ __weakrefoffset__") }
  | "pydantic_core._pydantic_core.TzInfo" => {
    parent := "datetime.tzinfo"
    operations := words "__deepcopy__ __reduce__ dst fromutc tzname utcoffset"
    kindOperations := words "__new__"
    operators := words "__eq__ __ge__ __gt__ __hash__ __le__ __lt__ __ne__ __repr__ __str__"
    constants := ofKind "str" "__doc__ __module__"
    isOpen := true
    hasPositions := true }
  | "FieldInfo" => {
    methods := words (
      "apply_typevars_map from_annotated_attribute from_annotation from_field get_default " ++
      "is_required merge_field_infos rebuild_annotation __eq__ __init__ __repr__ " ++
      "__repr_args__ __repr_name__ __repr_str__ __pretty__ __rich_repr__ __str__")
    free :=
      ofKind "NoneType" (
        "default default_factory deprecated discriminator examples exclude frozen init " ++
        "init_var json_schema_extra kw_only title validate_default") ++
      ofKind "str" "alias description serialization_alias validation_alias" ++
      ofKind "int" "alias_priority" ++ ofKind "bool" "repr" ++ ofKind "list" "metadata" ++
      ofKind "_UnionGenericAlias" "annotation"
    constants := ofKind "str" "__doc__ __module__"
    isOpen := true
    hasPositions := true }
  | "ModelMetaclass" => {
    parent := "type"
    isOpen := true
    hasPositions := true }
  | _ => {}

/-- A kind, its parent, and what all values have in common. -/
def lineage (kind : String) : List String :=
  let parent := (features kind).parent
  [kind, parent, (features parent).parent, "object"]

end MoodleTenancy
