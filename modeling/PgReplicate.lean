import PgReplicate.Utf8
import PgReplicate.TableRow
import PgReplicate.CopyText
import PgReplicate.RowShape
import PgReplicate.CopyRoundTrip
import PgReplicate.Lockstep
import PgReplicate.Errors
import PgReplicate.Prost
import PgReplicate.Api
import PgReplicate.Telemetry
