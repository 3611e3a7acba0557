import RestQuery.Config.Basic
import RestQuery.Text.Blank
import RestQuery.Url.Basic

/-!
# Accepting a configuration

A connection takes only a configuration whose base URL is an absolute URL and whose greatest page
size is positive. Blanks around the URL and slashes at its end are removed before anything else is
looked at.
-/

namespace RestQuery.Config

/-- The base URL without blanks around it and slashes at its end. -/
def trimmedUrl (c : Config) : String := Text.trimEndChar '/' (Text.trim c.baseUrl)

/-- The configuration as a connection takes it. -/
def validate (c : Config) : Except Error Config :=
  let url := c.trimmedUrl
  if url = "" then .error (.configuration "the `base_url` option must be set")
  else match Url.check url with
    | .error fault =>
      .error (.configuration ("invalid base_url `" ++ url ++ "`: " ++ fault.message))
    | .ok () =>
      if c.maxPerPage = 0 then .error (.configuration "`max_per_page` must be positive")
      else .ok { c with baseUrl := url }

end RestQuery.Config
