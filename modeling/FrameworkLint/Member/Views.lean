import FrameworkLint.Member.Family

/-!
# Members of the generic views

The generic views and their mixins, each with the members that its class body
defines.
-/

namespace FrameworkLint.Member.Family

def contextMixin : Family :=
  { owners := ["django.views.generic.base.ContextMixin", ".ContextMixin"]
    members :=
      ["__dict__", "__doc__", "__module__", "__weakref__", "extra_context", "get_context_data"] }

def redirectView : Family :=
  { owners := ["django.views.generic.base.RedirectView", ".RedirectView"]
    members :=
      ["__doc__", "__module__", "delete", "get", "get_redirect_url", "head", "options", "patch",
       "pattern_name", "permanent", "post", "put", "query_string", "url"] }

def templateResponseMixin : Family :=
  { owners := ["django.views.generic.base.TemplateResponseMixin", ".TemplateResponseMixin"]
    members :=
      ["__dict__", "__doc__", "__module__", "__weakref__", "content_type", "get_template_names",
       "render_to_response", "response_class", "template_engine", "template_name"] }

def view : Family :=
  { owners := ["django.views.generic.base.View", ".View"]
    members :=
      ["__dict__", "__doc__", "__init__", "__module__", "__weakref__", "_allowed_methods",
       "as_view", "dispatch", "http_method_names", "http_method_not_allowed", "options", "setup",
       "view_is_async"] }

def dateMixin : Family :=
  { owners := ["django.views.generic.dates.DateMixin", ".DateMixin"]
    members :=
      ["__dict__", "__doc__", "__module__", "__weakref__", "_make_date_lookup_arg",
       "_make_single_date_lookup", "allow_future", "date_field", "get_allow_future",
       "get_date_field", "uses_datetime_field"] }

def dayMixin : Family :=
  { owners := ["django.views.generic.dates.DayMixin", ".DayMixin"]
    members :=
      ["__dict__", "__doc__", "__module__", "__weakref__", "_get_current_day", "_get_next_day",
       "day", "day_format", "get_day", "get_day_format", "get_next_day", "get_previous_day"] }

def monthMixin : Family :=
  { owners := ["django.views.generic.dates.MonthMixin", ".MonthMixin"]
    members :=
      ["__dict__", "__doc__", "__module__", "__weakref__", "_get_current_month", "_get_next_month",
       "get_month", "get_month_format", "get_next_month", "get_previous_month", "month",
       "month_format"] }

def weekMixin : Family :=
  { owners := ["django.views.generic.dates.WeekMixin", ".WeekMixin"]
    members :=
      ["__dict__", "__doc__", "__module__", "__weakref__", "_get_current_week", "_get_next_week",
       "_get_weekday", "get_next_week", "get_previous_week", "get_week", "get_week_format", "week",
       "week_format"] }

def yearMixin : Family :=
  { owners := ["django.views.generic.dates.YearMixin", ".YearMixin"]
    members :=
      ["__dict__", "__doc__", "__module__", "__weakref__", "_get_current_year", "_get_next_year",
       "get_next_year", "get_previous_year", "get_year", "get_year_format", "year", "year_format"] }

def singleObjectMixin : Family :=
  { owners := ["django.views.generic.detail.SingleObjectMixin", ".SingleObjectMixin"]
    members :=
      ["__doc__", "__module__", "context_object_name", "get_context_data",
       "get_context_object_name", "get_object", "get_queryset", "get_slug_field", "model",
       "pk_url_kwarg", "query_pk_and_slug", "queryset", "slug_field", "slug_url_kwarg"] }

def singleObjectTemplateResponseMixin : Family :=
  { owners :=
      ["django.views.generic.detail.SingleObjectTemplateResponseMixin",
       ".SingleObjectTemplateResponseMixin"]
    members :=
      ["__doc__", "__module__", "get_template_names", "template_name_field",
       "template_name_suffix"] }

def deletionMixin : Family :=
  { owners := ["django.views.generic.edit.DeletionMixin", ".DeletionMixin"]
    members :=
      ["__dict__", "__doc__", "__module__", "__weakref__", "delete", "get_success_url", "post",
       "success_url"] }

def formMixin : Family :=
  { owners := ["django.views.generic.edit.FormMixin", ".FormMixin"]
    members :=
      ["__doc__", "__module__", "form_class", "form_invalid", "form_valid", "get_context_data",
       "get_form", "get_form_class", "get_form_kwargs", "get_initial", "get_prefix",
       "get_success_url", "initial", "prefix", "success_url"] }

def modelFormMixin : Family :=
  { owners := ["django.views.generic.edit.ModelFormMixin", ".ModelFormMixin"]
    members :=
      ["__doc__", "__module__", "fields", "form_valid", "get_form_class", "get_form_kwargs",
       "get_success_url"] }

def multipleObjectMixin : Family :=
  { owners := ["django.views.generic.list.MultipleObjectMixin", ".MultipleObjectMixin"]
    members :=
      ["__doc__", "__module__", "allow_empty", "context_object_name", "get_allow_empty",
       "get_context_data", "get_context_object_name", "get_ordering", "get_paginate_by",
       "get_paginate_orphans", "get_paginator", "get_queryset", "model", "ordering", "page_kwarg",
       "paginate_by", "paginate_orphans", "paginate_queryset", "paginator_class", "queryset"] }

def multipleObjectTemplateResponseMixin : Family :=
  { owners :=
      ["django.views.generic.list.MultipleObjectTemplateResponseMixin",
       ".MultipleObjectTemplateResponseMixin"]
    members :=
      ["__doc__", "__module__", "get_template_names", "template_name_suffix"] }

/-- The families of the generic views, in the order of their qualified names. -/
def genericViews : List Family :=
  [contextMixin, redirectView, templateResponseMixin, view, dateMixin, dayMixin, monthMixin,
   weekMixin, yearMixin, singleObjectMixin, singleObjectTemplateResponseMixin, deletionMixin,
   formMixin, modelFormMixin, multipleObjectMixin, multipleObjectTemplateResponseMixin]

/-- The family of a generic view, by the name of its class. -/
def genericView? (className : String) : Option Family :=
  genericViews.find? (·.owners.contains ("." ++ className))

end FrameworkLint.Member.Family
