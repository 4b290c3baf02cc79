import GqlPython.Text.Str
import GqlPython.Text.Decimal
import GqlPython.Text.Regex
import GqlPython.Text.Path
import GqlPython.Tidy.Csv
import GqlPython.Storage.Files
import GqlPython.Storage.Cache
import GqlPython.Tidy.Frame
import GqlPython.Tidy.Codec
import GqlPython.Tidy.RoundTrip
import GqlPython.Tidy.Ragged
import GqlPython.Tidy.Reads
import GqlPython.Job.Instance
import GqlPython.Job.Paths
import GqlPython.Job.Profiler
import GqlPython.Job.Shutdown
import GqlPython.Job.Writes
import GqlPython.Job.Session
import GqlPython.RunPy
import GqlPython.Sweep
import GqlPython.Release.Document
import GqlPython.Release.Markdown
import GqlPython.Release.Remarkup
import GqlPython.Jupyter
