import CountedBox.Reference

namespace CountedBox.Header

/-- The version of the runtime that compiled programs are linked with. -/
def version : String := "0.1.0"

/-- Routines under a heading of the header. -/
structure Group where
  title : String
  prototypes : List String

def bookkeeping : Group where
  title := "routines used by wycc for structure and bookkeeping"
  prototypes := [
    "void wycc_main(void);",
    "int wycc_shutdown(void);",
    "wycc_obj* wycc_incr_box(wycc_obj* itm);",
    "wycc_obj* wycc_deref_box(wycc_obj* itm, int flg);",
    "int wycc_last_error(void);",
    "const char* wycc_last_error_message(void);",
    "void wycc_clear_error(void);"]

def boxing : Group where
  title := "boxing and unboxing"
  prototypes := [
    "wycc_obj* wycc_box_null(void);",
    "wycc_obj* wycc_box_bool(int value);",
    "wycc_obj* wycc_box_byte(uint8_t value);",
    "wycc_obj* wycc_box_char(uint32_t code);",
    "wycc_obj* wycc_box_int(int64_t value);",
    "wycc_obj* wycc_box_str(const char* text);",
    "wycc_obj* wycc_obj_str(const wycc_obj* itm);",
    "int wycc_bool_value(const wycc_obj* itm);",
    "int64_t wycc_int_value(const wycc_obj* itm);",
    "const char* wycc_str_value(const wycc_obj* itm);",
    "wycc_obj* wycc_list_new(int capacity);",
    "int wycc_list_add(wycc_obj* lst, wycc_obj* itm);",
    "int wycc_list_size(wycc_obj* lst);",
    "wycc_obj* wycc_list_get(wycc_obj* lst, int idx);",
    "wycc_obj* wycc_set_new(void);",
    "int wycc_set_add(wycc_obj* set, wycc_obj* itm);",
    "int wycc_set_size(wycc_obj* set);",
    "wycc_obj* wycc_tuple_new(int arity);",
    "int wycc_tuple_set(wycc_obj* tup, int idx, wycc_obj* itm);",
    "wycc_obj* wycc_tuple_get(wycc_obj* tup, int idx);",
    "wycc_obj* wycc_record_new(void);",
    "int wycc_record_put(wycc_obj* rec, const char* field, wycc_obj* itm);",
    "wycc_obj* wycc_record_get(wycc_obj* rec, const char* field);",
    "int wycc_equals(const wycc_obj* lhs, const wycc_obj* rhs);"]

def debugging : Group where
  title := "routines to implement wyil operations"
  prototypes := [
    "void wyil_debug_str(const char* mesg);",
    "void wyil_debug_obj(wycc_obj* ptr);"]

def groups : List Group := [bookkeeping, boxing, debugging]

/-- Every routine of the header. -/
def prototypes : List String := groups.flatMap Group.prototypes

/-- The macro for the tag of a kind. -/
def tagMacro (k : Kind) : String := "Wy_" ++ k.name.capitalize

def comment (lines : List String) : List String :=
  "/*" :: lines.map (" *" ++ ·) ++ [" */"]

def lines : List String :=
  comment [" wycc_lib.h", "", " Support routines for Whiley programs translated into C.",
    " Generated by wycc " ++ version ++ "; do not edit."] ++
  ["", "#ifndef WYCC_LIB_H", "#define WYCC_LIB_H", "", "#include <stdint.h>", ""] ++
  Kind.all.map (fun k => "#define " ++ tagMacro k ++ " " ++ toString k.tag) ++
  ["", "typedef struct Wycc_object \x7b", "    int typ;", "    int cnt;", "    void* ptr;",
    "\x7d wycc_obj;"] ++
  groups.flatMap (fun g => "" :: comment [" " ++ g.title] ++ g.prototypes) ++
  ["", "#endif /* WYCC_LIB_H */"]

/-- The text of the header. -/
def render : String := String.join (lines.map (· ++ "\n"))

end CountedBox.Header
