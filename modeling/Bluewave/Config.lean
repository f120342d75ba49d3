/-! The operator's settings, and the part of them that opens a connection. -/
namespace Bluewave

/-- `db.MysqlConfig`. -/
structure MysqlConfig where
  host : String
  port : Int
  user : String
  password : String
  database : String
  deriving DecidableEq

/-- `config.Config`. -/
structure Config where
  siteLabel : String
  bluewebUrl : String
  bluewebUser : String
  bluewebPassword : String
  operatorTimezone : String
  mysqlHost : String
  mysqlPort : Int
  mysqlDatabase : String
  mysqlUser : String
  mysqlPassword : String
  scheduleLocal : String
  catchUpCapDays : Int
  deriving DecidableEq

/-- The `MysqlConfig` every caller of `connect` builds. -/
def Config.mysql (cfg : Config) : MysqlConfig where
  host := cfg.mysqlHost
  port := cfg.mysqlPort
  user := cfg.mysqlUser
  password := cfg.mysqlPassword
  database := cfg.mysqlDatabase

end Bluewave
