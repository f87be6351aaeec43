import BitwardenRs.Chrono
import BitwardenRs.Jwt
import BitwardenRs.Issue
import BitwardenRs.Db
import BitwardenRs.Guards
import BitwardenRs.Session
import BitwardenRs.Jobs
import BitwardenRs.Lifecycle
import BitwardenRs.Store
import BitwardenRs.Schedule
import BitwardenRs.Race
import BitwardenRs.Attachment
