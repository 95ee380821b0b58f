/-!
# Member names

The names of the members that the framework gives to its classes when a program
runs, so that their definitions cannot be found in the text of the class.  Each list
is in the order of its code points.
-/

namespace FrameworkLint.Member.Names

/-- Members of a manager, which hands out queries. -/
def manager : List String :=
  ["aggregate", "all", "annotate", "bulk_create", "complex_filter", "count", "create", "dates",
   "defer", "distinct", "exclude", "exists", "extra", "filter", "get", "get_or_create",
   "get_queryset", "in_bulk", "iterator", "latest", "none", "only", "order_by",
   "prefetch_related", "reverse", "select_for_update", "select_related", "update", "using",
   "values", "values_list"]

/-- Members of a query set. -/
def querySet : List String :=
  ["aggregate", "all", "annotate", "as_manager", "bulk_create", "count", "create", "dates",
   "datetimes", "defer", "delete", "distinct", "earliest", "exclude", "exists", "expression",
   "extra", "filter", "first", "get", "get_or_create", "in_bulk", "iterator", "last", "latest",
   "none", "only", "order_by", "output_field", "prefetch_related", "raw", "reverse",
   "select_for_update", "select_related", "update", "update_or_create", "using", "values",
   "values_list"]

/-- Options of the administration page of a model. -/
def modelAdmin : List String :=
  ["actions", "actions_on_bottom", "actions_on_top", "actions_selection_counter",
   "add_form_template", "change_form_template", "change_list_template", "date_hierarchy",
   "delete_confirmation_template", "delete_selected_confirmation_template",
   "empty_value_display", "exclude", "fields", "fieldsets", "filter_horizontal",
   "filter_vertical", "form", "formfield_overrides", "inlines", "list_display",
   "list_display_links", "list_editable", "list_filter", "list_max_show_all", "list_per_page",
   "list_select_related", "object_history_template", "ordering", "paginator",
   "prepopulated_fields", "preserve_filters", "radio_fields", "raw_id_fields", "readonly_fields",
   "save_as", "save_on_top", "search_fields", "show_full_result_count", "view_on_site"]

/-- Members that every model has. -/
def model : List String :=
  ["DoesNotExist", "MultipleObjectsReturned", "_base_manager", "_default_manager", "_meta",
   "delete", "get_next_by_date", "get_previous_by_date", "objects", "save"]

/-- Options that every field has. -/
def field : List String :=
  ["blank", "choices", "db_column", "db_index", "db_tablespace", "default", "editable",
   "error_messages", "help_text", "null", "primary_key", "unique", "unique_for_date",
   "unique_for_month", "unique_for_year", "validators", "verbose_name"]

/-- Options of a text field. -/
def charField : List String :=
  ["max_length"]

/-- Options of a date field. -/
def dateField : List String :=
  ["auto_now", "auto_now_add"]

/-- Options of a decimal field. -/
def decimalField : List String :=
  ["decimal_places", "max_digits"]

/-- Options of a file field. -/
def fileField : List String :=
  ["storage", "upload_to"]

/-- Options of an image field. -/
def imageField : List String :=
  ["height_field", "width_field"]

/-- Options of a network address field. -/
def addressField : List String :=
  ["protocol", "unpack_ipv4"]

/-- Options of a slug field. -/
def slugField : List String :=
  ["allow_unicode"]

/-- Options of a field that refers to one other model. -/
def foreignKey : List String :=
  ["db_constraint", "limit_choices_to", "related_name", "related_query_name", "swappable",
   "to_field"]

/-- Options of a field that refers to many other models. -/
def manyToMany : List String :=
  ["db_constraint", "db_table", "limit_choices_to", "related_name", "related_query_name",
   "swappable", "symmetrical", "through", "through_fields"]

/-- Options of a field that pairs two models. -/
def oneToOne : List String :=
  ["parent_link"]

end FrameworkLint.Member.Names
